/-!
# Stable sorting by a key

A list that is sorted by a key is known by what it holds of each key, in order, and sorting a list
changes none of that. The order of the keys is any linear one.
-/

set_option autoImplicit false

namespace Lexicon.Sorting

/-- An order of keys, as a sorting takes it. -/
structure KeyOrder where
  before : Nat → Nat → Bool
  trans : ∀ first second third, before first second = true → before second third = true →
    before first third = true
  total : ∀ first second, (before first second || before second first) = true
  antisymm : ∀ first second, before first second = true → before second first = true →
    first = second

def KeyOrder.rising : KeyOrder where
  before first second := first ≤ second
  trans first second third below above :=
    decide_eq_true (Nat.le_trans (of_decide_eq_true below) (of_decide_eq_true above))
  total first second := by
    rw [Bool.or_eq_true, decide_eq_true_eq, decide_eq_true_eq]
    exact Nat.le_total first second
  antisymm first second below above :=
    Nat.le_antisymm (of_decide_eq_true below) (of_decide_eq_true above)

def KeyOrder.falling : KeyOrder where
  before first second := second ≤ first
  trans first second third above below :=
    decide_eq_true (Nat.le_trans (of_decide_eq_true below) (of_decide_eq_true above))
  total first second := by
    rw [Bool.or_eq_true, decide_eq_true_eq, decide_eq_true_eq]
    exact Nat.le_total second first
  antisymm first second above below :=
    Nat.le_antisymm (of_decide_eq_true below) (of_decide_eq_true above)

section

variable {α : Type} (order : KeyOrder) (key : α → Nat)

def IsSorted (entries : List α) : Prop :=
  entries.Pairwise fun first second => order.before (key first) (key second) = true

instance (entries : List α) : Decidable (IsSorted order key entries) :=
  inferInstanceAs (Decidable (entries.Pairwise _))

/-- The entries of one key, in order. -/
def level (asked : Nat) (entries : List α) : List α :=
  entries.filter fun entry => key entry = asked

def sort (entries : List α) : List α :=
  entries.mergeSort fun first second => order.before (key first) (key second)

variable {order key}

theorem mem_level {asked : Nat} {entries : List α} {entry : α} :
    entry ∈ level key asked entries ↔ entry ∈ entries ∧ key entry = asked := by
  rw [level, List.mem_filter, decide_eq_true_eq]

theorem level_cons_of_eq {asked : Nat} {first : α} (same : key first = asked) (rest : List α) :
    level key asked (first :: rest) = first :: level key asked rest :=
  List.filter_cons_of_pos (decide_eq_true same)

theorem level_cons_of_ne {asked : Nat} {first : α} (other : key first ≠ asked) (rest : List α) :
    level key asked (first :: rest) = level key asked rest :=
  List.filter_cons_of_neg (by simpa using other)

theorem level_append (asked : Nat) (left right : List α) :
    level key asked (left ++ right) = level key asked left ++ level key asked right :=
  List.filter_append left right

theorem level_reverse (asked : Nat) (entries : List α) :
    level key asked entries.reverse = (level key asked entries).reverse :=
  List.filter_reverse

theorem level_eq_nil {asked : Nat} {entries : List α}
    (others : ∀ entry ∈ entries, key entry ≠ asked) :
    level key asked entries = [] :=
  List.filter_eq_nil_iff.2 fun entry among => by simpa using others entry among

theorem mem_of_level_eq {left right : List α} {entry : α}
    (same : ∀ asked, level key asked left = level key asked right) (among : entry ∈ left) :
    entry ∈ right := by
  have found : entry ∈ level key (key entry) right := by
    rw [← same]
    exact mem_level.2 ⟨among, rfl⟩
  exact (mem_level.1 found).1

theorem isSorted_sort (entries : List α) : IsSorted order key (sort order key entries) :=
  @List.pairwise_mergeSort α (fun first second => order.before (key first) (key second))
    (fun _ _ _ => order.trans _ _ _) (fun _ _ => order.total _ _) entries

/-- Sorting leaves the entries of one key in their order. -/
theorem level_sort (asked : Nat) (entries : List α) :
    level key asked (sort order key entries) = level key asked entries := by
  -- Entries of one key are in order as they stand, so the sorted list keeps them as a sublist, and
  -- it has no others of that key.
  have alike : (level key asked entries).Pairwise fun first second =>
      order.before (key first) (key second) = true := by
    rw [List.pairwise_iff_forall_sublist]
    intro first second pair
    have among : ∀ entry ∈ [first, second], key entry = asked := fun entry member =>
      (mem_level.1 (pair.subset member)).2
    rw [among first (by simp), among second (by simp)]
    simpa using order.total asked asked
  have kept : (level key asked entries).Sublist (sort order key entries) :=
    @List.sublist_mergeSort α (fun first second => order.before (key first) (key second)) _
      (fun _ _ _ => order.trans _ _ _) (fun _ _ => order.total _ _) _ alike List.filter_sublist
  have within := kept.filter fun entry => decide (key entry = asked)
  rw [level, List.filter_filter] at within
  simp only [Bool.and_self] at within
  have length : (level key asked entries).length =
      (level key asked (sort order key entries)).length :=
    ((List.mergeSort_perm entries _).symm.filter _).length_eq
  exact (within.eq_of_length length).symm

theorem IsSorted.before_of_mem {first entry : α} {rest : List α}
    (sorted : IsSorted order key (first :: rest)) (among : entry ∈ first :: rest) :
    order.before (key first) (key entry) = true := by
  cases among with
  | head => simpa using order.total (key first) (key first)
  | tail _ later => exact (List.pairwise_cons.1 sorted).1 entry later

/-- A sorted list is known by what it holds of each key. -/
theorem eq_of_level_eq {left right : List α} (leftSorted : IsSorted order key left)
    (rightSorted : IsSorted order key right)
    (same : ∀ asked, level key asked left = level key asked right) : left = right := by
  induction left generalizing right with
  | nil =>
    cases right with
    | nil => rfl
    | cons second others =>
      cases mem_of_level_eq (fun asked => (same asked).symm) List.mem_cons_self
  | cons first rest ih =>
    cases right with
    | nil => cases mem_of_level_eq same List.mem_cons_self
    | cons second others =>
      have firstAmong : first ∈ second :: others := mem_of_level_eq same List.mem_cons_self
      have secondAmong : second ∈ first :: rest :=
        mem_of_level_eq (fun asked => (same asked).symm) List.mem_cons_self
      -- Each head is in the other list, so no key comes before the one of both.
      have top : key second = key first :=
        order.antisymm _ _ (rightSorted.before_of_mem firstAmong)
          (leftSorted.before_of_mem secondAmong)
      have tops := same (key first)
      rw [level_cons_of_eq rfl, level_cons_of_eq top] at tops
      obtain ⟨sameFirst, sameLevel⟩ := List.cons.inj tops
      subst sameFirst
      refine congrArg (first :: ·)
        (ih (List.pairwise_cons.1 leftSorted).2 (List.pairwise_cons.1 rightSorted).2 ?_)
      intro asked
      by_cases sameKey : key first = asked
      · subst sameKey
        exact sameLevel
      · have tails := same asked
        rw [level_cons_of_ne sameKey, level_cons_of_ne sameKey] at tails
        exact tails

theorem sort_congr {left right : List α}
    (same : ∀ asked, level key asked left = level key asked right) :
    sort order key left = sort order key right := by
  apply eq_of_level_eq (isSorted_sort left) (isSorted_sort right)
  intro asked
  rw [level_sort, level_sort, same]

theorem sort_of_isSorted {entries : List α} (sorted : IsSorted order key entries) :
    sort order key entries = entries :=
  List.mergeSort_of_pairwise sorted

end

end Lexicon.Sorting
