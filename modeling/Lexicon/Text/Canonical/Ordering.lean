import Lexicon.Sorting
import Lexicon.Text.Canonical.Data

/-!
# Canonical ordering of marks

Each run of marks is sorted by combining class. Two texts are alike if ordering makes them the same
behind every run of marks: so are texts that differ by marks of different classes that pass each
other, and a text and its ordering.
-/

set_option autoImplicit false

namespace Lexicon.Text

def classRow? (c : Char) : Option (Nat × Nat × Nat) :=
  CanonicalData.classes.find? fun (first, last, _) => first.ble c.toNat && c.toNat.ble last

/-- The canonical combining class. Class zero is that of every character that starts a new group. -/
def combiningClass (c : Char) : Nat :=
  ((classRow? c).map fun row => row.2.2).getD 0

/-- A run of marks in reading order, stably sorted. `marks` has the last mark first. -/
def sortMarks (marks : List Char) : List Char :=
  Sorting.sort .rising combiningClass marks.reverse

/-- Sorts each run of marks by class. Marks of one class keep their order, and no mark passes a
character of class zero. `marks` is the run read so far, last mark first. -/
def orderMarks (marks : List Char) : List Char → List Char
  | [] => sortMarks marks
  | c :: rest =>
    if combiningClass c = 0 then sortMarks marks ++ c :: orderMarks [] rest
    else orderMarks (c :: marks) rest

/-- Whether all of them are marks, so that they are in one run. -/
def Marks (cs : List Char) : Prop :=
  ∀ c ∈ cs, combiningClass c ≠ 0

/-- Both hold the same marks of each class, in the same order. -/
def SameMarks (left right : List Char) : Prop :=
  ∀ asked, Sorting.level combiningClass asked left = Sorting.level combiningClass asked right

theorem mem_sortMarks {marks : List Char} {c : Char} : c ∈ sortMarks marks ↔ c ∈ marks :=
  List.mem_mergeSort.trans List.mem_reverse

theorem sortMarks_nil : sortMarks [] = [] :=
  Sorting.sort_of_isSorted .nil

theorem sameMarks_sortMarks (marks : List Char) : SameMarks (sortMarks marks) marks.reverse :=
  fun asked => Sorting.level_sort asked marks.reverse

theorem SameMarks.reverse {left right : List Char} (same : SameMarks left right) :
    SameMarks left.reverse right.reverse := by
  intro asked
  rw [Sorting.level_reverse, Sorting.level_reverse, same asked]

theorem SameMarks.append_right {left right : List Char} (same : SameMarks left right)
    (others : List Char) : SameMarks (left ++ others) (right ++ others) := by
  intro asked
  rw [Sorting.level_append, Sorting.level_append, same asked]

theorem SameMarks.cons {left right : List Char} (same : SameMarks left right) (c : Char) :
    SameMarks (c :: left) (c :: right) := by
  intro asked
  by_cases own : combiningClass c = asked
  · rw [Sorting.level_cons_of_eq own, Sorting.level_cons_of_eq own, same asked]
  · rw [Sorting.level_cons_of_ne own, Sorting.level_cons_of_ne own, same asked]

/-- A mark may pass marks of other classes. -/
theorem sameMarks_passed {c : Char} {run : List Char}
    (others : ∀ mark ∈ run, combiningClass mark ≠ combiningClass c) :
    SameMarks (c :: run) (run ++ [c]) := by
  intro asked
  rw [Sorting.level_append]
  by_cases own : combiningClass c = asked
  · rw [Sorting.level_cons_of_eq own, Sorting.level_cons_of_eq own,
      Sorting.level_eq_nil (own ▸ others)]
    rfl
  · rw [Sorting.level_cons_of_ne own, Sorting.level_cons_of_ne own]
    exact (List.append_nil _).symm

theorem orderMarks_congr {left right : List Char} (same : SameMarks left right) (rest : List Char) :
    orderMarks left rest = orderMarks right rest := by
  induction rest generalizing left right with
  | nil => exact Sorting.sort_congr same.reverse
  | cons c rest ih =>
    have sorted : sortMarks left = sortMarks right := Sorting.sort_congr same.reverse
    rw [orderMarks, orderMarks]
    split
    · rw [sorted]
    · exact ih (same.cons c)

theorem orderMarks_append {run : List Char} (isRun : Marks run) (marks rest : List Char) :
    orderMarks marks (run ++ rest) = orderMarks (run.reverse ++ marks) rest := by
  induction run generalizing marks with
  | nil => rfl
  | cons c run ih =>
    rw [List.cons_append, orderMarks, if_neg (isRun c List.mem_cons_self),
      ih fun mark among => isRun mark (List.mem_cons_of_mem c among), List.reverse_cons,
      List.append_assoc]
    rfl

theorem of_mem_orderMarks {marks cs : List Char} {c : Char} (among : c ∈ orderMarks marks cs) :
    c ∈ marks ∨ c ∈ cs := by
  induction cs generalizing marks with
  | nil => exact .inl (mem_sortMarks.1 among)
  | cons first rest ih =>
    rw [orderMarks] at among
    rw [List.mem_cons]
    split at among
    · rw [List.mem_append, List.mem_cons, mem_sortMarks] at among
      rcases among with mark | head | later
      · exact .inl mark
      · exact .inr (.inl head)
      · exact .inr (.inr ((ih later).resolve_left List.not_mem_nil))
    · have deeper := ih among
      rw [List.mem_cons] at deeper
      rcases deeper with (head | mark) | later
      · exact .inr (.inl head)
      · exact .inl mark
      · exact .inr (.inr later)

/-! ## Texts that are alike -/

def Alike (left right : List Char) : Prop :=
  ∀ marks, orderMarks marks left = orderMarks marks right

theorem Alike.refl (cs : List Char) : Alike cs cs := fun _ => rfl

theorem Alike.symm {left right : List Char} (alike : Alike left right) : Alike right left :=
  fun marks => (alike marks).symm

theorem Alike.trans {first second third : List Char} (one : Alike first second)
    (two : Alike second third) : Alike first third :=
  fun marks => (one marks).trans (two marks)

theorem Alike.append_left {left right : List Char} (alike : Alike left right) (before : List Char) :
    Alike (before ++ left) (before ++ right) := by
  induction before with
  | nil => exact alike
  | cons c before ih =>
    intro marks
    rw [List.cons_append, List.cons_append, orderMarks, orderMarks, ih, ih]

theorem alike_of_sameMarks {left right : List Char} (leftRun : Marks left) (rightRun : Marks right)
    (same : SameMarks left right) (rest : List Char) : Alike (left ++ rest) (right ++ rest) := by
  intro marks
  rw [orderMarks_append leftRun, orderMarks_append rightRun]
  exact orderMarks_congr (same.reverse.append_right marks) rest

theorem alike_orderMarks {marks : List Char} (isRun : Marks marks) (cs : List Char) :
    Alike (orderMarks marks cs) (marks.reverse ++ cs) := by
  have sortedRun : ∀ {marks}, Marks marks → Marks (sortMarks marks) :=
    fun isRun c among => isRun c (mem_sortMarks.1 among)
  have reverseRun : ∀ {marks : List Char}, Marks marks → Marks marks.reverse :=
    fun isRun c among => isRun c (List.mem_reverse.1 among)
  induction cs generalizing marks with
  | nil =>
    rw [orderMarks, List.append_nil, ← List.append_nil (sortMarks marks),
      ← List.append_nil marks.reverse]
    exact alike_of_sameMarks (sortedRun isRun) (reverseRun isRun) (sameMarks_sortMarks marks) []
  | cons c rest ih =>
    rw [orderMarks]
    split
    · have later : Alike (orderMarks [] rest) rest := ih (List.forall_mem_nil _)
      exact ((later.append_left [c]).append_left (sortMarks marks)).trans
        (alike_of_sameMarks (sortedRun isRun) (reverseRun isRun) (sameMarks_sortMarks marks) _)
    · next mark =>
      have longer : Marks (c :: marks) := List.forall_mem_cons.2 ⟨mark, isRun⟩
      have further := ih longer
      rwa [List.reverse_cons, List.append_assoc] at further

/-! ## Ordered texts -/

/-- No mark has a lower class than the mark before it. `floor` is the class of the character before
the text. -/
def Ordered (floor : Nat) : List Char → Prop
  | [] => True
  | c :: rest => (combiningClass c = 0 ∨ floor ≤ combiningClass c) ∧ Ordered (combiningClass c) rest

theorem Ordered.mono {low floor : Nat} (lower : low ≤ floor) {cs : List Char}
    (ordered : Ordered floor cs) : Ordered low cs := by
  cases cs with
  | nil => trivial
  | cons c rest => exact ⟨ordered.1.imp id (Nat.le_trans lower), ordered.2⟩

theorem ordered_append {run rest : List Char} {floor : Nat}
    (sorted : Sorting.IsSorted .rising combiningClass run)
    (above : ∀ c ∈ run, floor ≤ combiningClass c)
    (later : ∀ floor, Ordered floor rest) : Ordered floor (run ++ rest) := by
  induction run generalizing floor with
  | nil => exact later floor
  | cons c run ih =>
    obtain ⟨first, others⟩ := List.pairwise_cons.1 sorted
    refine ⟨.inr (above c List.mem_cons_self), ih others ?_⟩
    exact fun mark among => of_decide_eq_true (first mark among)

theorem ordered_orderMarks (marks cs : List Char) : Ordered 0 (orderMarks marks cs) := by
  have sorted : ∀ marks, Sorting.IsSorted .rising combiningClass (sortMarks marks) :=
    fun marks => Sorting.isSorted_sort marks.reverse
  induction cs generalizing marks with
  | nil =>
    rw [orderMarks, ← List.append_nil (sortMarks marks)]
    exact ordered_append (sorted marks) (fun _ _ => Nat.zero_le _) fun _ => trivial
  | cons c rest ih =>
    rw [orderMarks]
    split
    · next starter =>
      refine ordered_append (sorted marks) (fun _ _ => Nat.zero_le _) fun floor => ?_
      refine ⟨.inl starter, ?_⟩
      rw [starter]
      exact ih []
    · exact ih _

end Lexicon.Text
