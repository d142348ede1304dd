import Lexicon.Text.Canonical.Decomposition
import Lexicon.Text.Canonical.Ordering

/-!
# Canonical composition

The composed form of a text (normalization form C): every character is decomposed, marks are put in
the order of their combining classes, and adjacent pairs are composed again. Canonically equivalent
spellings, such as a letter with a separate accent and the accented letter, have one composed form.

The main statements say that the composed form of a composed text is that text itself, and that text
below U+0300 is composed already. The first rests on this: decomposing a composed text gives back
what was composed, but for marks of different classes that passed each other.
-/

set_option autoImplicit false

namespace Lexicon.Text

/-! ## Decomposition -/

def decomposeChar (c : Char) : List Char :=
  (decomposeCode c.toNat).map Char.ofNat

def decompose (cs : List Char) : List Char :=
  cs.flatMap decomposeChar

/-- Whether none of them decomposes. -/
def Final (cs : List Char) : Prop :=
  ∀ c ∈ cs, partsOf? c.toNat = none

theorem toNat_ofNat {code : Nat} (valid : code.isValidChar) : (Char.ofNat code).toNat = code := by
  rw [Char.ofNat, dif_pos valid]
  rfl

theorem decompose_cons (c : Char) (rest : List Char) :
    decompose (c :: rest) = decomposeChar c ++ decompose rest :=
  List.flatMap_cons

theorem decompose_append (left right : List Char) :
    decompose (left ++ right) = decompose left ++ decompose right :=
  List.flatMap_append

theorem decomposeChar_of_final {c : Char} (final : partsOf? c.toNat = none) :
    decomposeChar c = [c] := by
  rw [decomposeChar, decomposeCode_of_none final, List.map_singleton, Char.ofNat_toNat]

theorem decompose_of_final {cs : List Char} (final : Final cs) : decompose cs = cs := by
  induction cs with
  | nil => rfl
  | cons c rest ih =>
    obtain ⟨first, later⟩ := List.forall_mem_cons.1 final
    rw [decompose_cons, decomposeChar_of_final first, ih later]
    rfl

theorem final_decompose (cs : List Char) : Final (decompose cs) := by
  intro last among
  obtain ⟨c, _, own⟩ := List.mem_flatMap.1 among
  obtain ⟨code, part, lastEq⟩ := List.mem_map.1 own
  rw [← lastEq, toNat_ofNat (isValidChar_of_mem_decomposeCode c.valid part)]
  exact partsOf?_of_mem_decomposeCode part

/-! ## Composition -/

def composePair? (first second : Char) : Option Char :=
  (joinCodes? first.toNat second.toNat).map Char.ofNat

/-- Whether no character between the starter and this one stands in the way: one that is itself a
starter or whose class is not lower. `marks` has the last one first. -/
def reaches (marks : List Char) (c : Char) : Bool :=
  match marks with
  | [] => true
  | mark :: _ => combiningClass mark < combiningClass c

/-- Composes each character with the last starter before it, if that one is reached. `starter` is
that starter with the marks kept after it, last mark first. -/
def composeFrom (starter : Char) (marks : List Char) : List Char → List Char
  | [] => starter :: marks.reverse
  | c :: rest =>
    match if reaches marks c then composePair? starter c else none with
    | some joined => composeFrom joined marks rest
    | none =>
      if combiningClass c = 0 then starter :: marks.reverse ++ composeFrom c [] rest
      else composeFrom starter (c :: marks) rest

/-- Composition of a decomposed and ordered text. Marks before the first starter stay. -/
def recompose : List Char → List Char
  | [] => []
  | c :: rest => if combiningClass c = 0 then composeFrom c [] rest else c :: recompose rest

def composeOnce (text : String) : String :=
  String.ofList (recompose (orderMarks [] (decompose text.toList)))

theorem decomposeChar_of_composePair? {first second joined : Char}
    (composed : composePair? first second = some joined) (final : partsOf? second.toNat = none) :
    decomposeChar joined = decomposeChar first ++ [second] := by
  rw [composePair?, Option.map_eq_some_iff] at composed
  obtain ⟨code, found, joinedEq⟩ := composed
  obtain ⟨valid, parts⟩ := decomposeCode_joinCodes? found final
  rw [decomposeChar, ← joinedEq, toNat_ofNat valid, parts, List.map_append, List.map_singleton,
    Char.ofNat_toNat]
  rfl

/-- The marks kept after a starter, last mark first: they are in the order of their classes. The floor
is the class of the character read last. -/
structure Kept (floor : Nat) (marks : List Char) : Prop where
  final : Final marks
  run : Marks marks
  falling : Sorting.IsSorted .falling combiningClass marks
  below : ∀ mark ∈ marks, combiningClass mark ≤ floor

theorem Kept.empty (floor : Nat) : Kept floor [] where
  final := List.forall_mem_nil _
  run := List.forall_mem_nil _
  falling := .nil
  below := List.forall_mem_nil _

theorem Kept.push {floor : Nat} {marks : List Char} {c : Char} (kept : Kept floor marks)
    (final : partsOf? c.toNat = none) (mark : combiningClass c ≠ 0)
    (above : floor ≤ combiningClass c) : Kept (combiningClass c) (c :: marks) where
  final := List.forall_mem_cons.2 ⟨final, kept.final⟩
  run := List.forall_mem_cons.2 ⟨mark, kept.run⟩
  falling := List.pairwise_cons.2
    ⟨fun other among => decide_eq_true (Nat.le_trans (kept.below other among) above), kept.falling⟩
  below := List.forall_mem_cons.2
    ⟨Nat.le_refl _, fun other among => Nat.le_trans (kept.below other among) above⟩

theorem ne_zero_of_reaches {last c : Char} {marks : List Char}
    (reached : reaches (last :: marks) c = true) : combiningClass c ≠ 0 :=
  Nat.ne_of_gt (Nat.zero_lt_of_lt (of_decide_eq_true reached))

theorem Kept.raise {floor : Nat} {marks : List Char} {c : Char} (kept : Kept floor marks)
    (reached : reaches marks c = true) (ordered : combiningClass c = 0 ∨ floor ≤ combiningClass c) :
    Kept (combiningClass c) marks := by
  cases marks with
  | nil => exact .empty _
  | cons last marks =>
    have above := ordered.resolve_left (ne_zero_of_reaches reached)
    exact { kept with below := fun other among => Nat.le_trans (kept.below other among) above }

/-- A character that reaches the starter passes marks of lower classes only. -/
theorem Kept.alike_passed {floor : Nat} {marks : List Char} {c : Char} (kept : Kept floor marks)
    (reached : reaches marks c = true) (rest : List Char) :
    Alike (c :: (marks.reverse ++ rest)) (marks.reverse ++ c :: rest) := by
  cases marks with
  | nil => exact .refl (c :: rest)
  | cons last marks =>
    have below : combiningClass last < combiningClass c := of_decide_eq_true reached
    have lower : ∀ mark ∈ (last :: marks).reverse, combiningClass mark < combiningClass c := by
      intro mark among
      exact Nat.lt_of_le_of_lt
        (of_decide_eq_true (kept.falling.before_of_mem (List.mem_reverse.1 among))) below
    have run : Marks (last :: marks).reverse :=
      fun mark among => kept.run mark (List.mem_reverse.1 among)
    have mark := ne_zero_of_reaches reached
    have passed := alike_of_sameMarks (List.forall_mem_cons.2 ⟨mark, run⟩)
      (List.forall_mem_append.2 ⟨run, List.forall_mem_singleton.2 mark⟩)
      (sameMarks_passed fun mark among => Nat.ne_of_lt (lower mark among)) rest
    rwa [List.append_assoc] at passed

/-- What is composed from a starter, the marks kept after it and the rest decomposes to them again,
but for marks that passed each other. -/
theorem alike_composeFrom {floor : Nat} (starter : Char) {marks rest : List Char}
    (kept : Kept floor marks) (final : Final rest) (ordered : Ordered floor rest) :
    Alike (decompose (composeFrom starter marks rest))
      (decomposeChar starter ++ (marks.reverse ++ rest)) := by
  have keptFinal : decompose marks.reverse = marks.reverse :=
    decompose_of_final fun mark among => kept.final mark (List.mem_reverse.1 among)
  induction rest generalizing floor starter marks with
  | nil =>
    rw [composeFrom, decompose_cons, keptFinal, List.append_nil]
    exact .refl _
  | cons c rest ih =>
    obtain ⟨cFinal, restFinal⟩ := List.forall_mem_cons.1 final
    rw [composeFrom]
    split
    · next joined composed =>
      have reached : reaches marks c = true := by
        cases reached : reaches marks c with
        | true => rfl
        | false => simp [reached] at composed
      rw [if_pos reached] at composed
      have further := ih joined (kept.raise reached ordered.1) restFinal ordered.2 keptFinal
      rw [decomposeChar_of_composePair? composed cFinal, List.append_assoc] at further
      -- In the joined character `c` stands before the marks that it passed.
      exact further.trans ((kept.alike_passed reached rest).append_left (decomposeChar starter))
    · split
      · next isStarter =>
        have further := ih c (.empty _) restFinal ordered.2 rfl
        rw [decomposeChar_of_final cFinal] at further
        rw [List.cons_append, decompose_cons, decompose_append, keptFinal]
        exact (further.append_left marks.reverse).append_left (decomposeChar starter)
      · next mark =>
        have pushed := kept.push cFinal mark (ordered.1.resolve_left mark)
        have further := ih starter pushed restFinal ordered.2
          (decompose_of_final fun mark among => pushed.final mark (List.mem_reverse.1 among))
        rwa [List.reverse_cons, List.append_assoc] at further

theorem alike_recompose {cs : List Char} (final : Final cs) (ordered : Ordered 0 cs) :
    Alike (decompose (recompose cs)) cs := by
  induction cs with
  | nil => exact .refl []
  | cons c rest ih =>
    obtain ⟨cFinal, restFinal⟩ := List.forall_mem_cons.1 final
    rw [recompose]
    split
    · have composed := alike_composeFrom c (.empty _) restFinal ordered.2
      rwa [decomposeChar_of_final cFinal] at composed
    · rw [decompose_cons, decomposeChar_of_final cFinal]
      exact (ih restFinal (ordered.2.mono (Nat.zero_le _))).append_left [c]

theorem composeOnce_composeOnce (text : String) :
    composeOnce (composeOnce text) = composeOnce text := by
  have ordered := ordered_orderMarks [] (decompose text.toList)
  have final : Final (orderMarks [] (decompose text.toList)) := by
    intro c among
    exact final_decompose text.toList c
      ((of_mem_orderMarks among).resolve_left List.not_mem_nil)
  -- Decomposing the composed text gives a text that is ordered as the first decomposition is.
  have again : orderMarks [] (decompose (recompose (orderMarks [] (decompose text.toList)))) =
      orderMarks [] (decompose text.toList) := by
    rw [alike_recompose final ordered []]
    exact alike_orderMarks (List.forall_mem_nil _) (decompose text.toList) []
  rw [composeOnce, composeOnce, String.toList_ofList, again]

/-! ## Low text -/

/-- Whether every character lies below U+0300. No such character composes with one before it. -/
def isLow (text : String) : Bool :=
  text.toList.all fun c => c.toNat < 0x300

/-- The composed form of a text. Low text is composed as it stands. -/
def canonical (text : String) : String :=
  if isLow text then text else composeOnce text

theorem canonical_of_isLow {text : String} (low : isLow text = true) : canonical text = text := by
  rw [canonical, if_pos low]

@[simp] theorem canonical_empty : canonical "" = "" :=
  canonical_of_isLow (by decide)

set_option maxRecDepth 10000 in
theorem classes_high : ∀ row ∈ CanonicalData.classes, 0x300 ≤ row.1 := by
  decide +kernel

set_option maxRecDepth 10000 in
theorem seconds_high : ∀ row ∈ CanonicalData.composed, 0x300 ≤ row.2.2 := by
  decide +kernel

theorem combiningClass_low {c : Char} (low : c.toNat < 0x300) : combiningClass c = 0 := by
  have none : classRow? c = none := by
    rw [classRow?, List.find?_eq_none]
    intro row among within
    have high := classes_high row among
    have below := Nat.le_of_ble_eq_true (Bool.and_eq_true_iff.1 within).1
    exact Nat.not_lt_of_le (Nat.le_trans high below) low
  rw [combiningClass, none]
  rfl

theorem composePair?_low (first : Char) {second : Char} (low : second.toNat < 0x300) :
    composePair? first second = none := by
  have hangul : joinHangul? first.toNat second.toNat = none := by
    rw [joinHangul?, if_neg (by omega), if_neg (by omega)]
  have table : joinTable? first.toNat second.toNat = none := by
    rw [joinTable?, Option.map_eq_none_iff, List.find?_eq_none]
    intro row among sides
    have high := seconds_high row among
    have same : row.2.2 = second.toNat := eq_of_beq (Bool.and_eq_true_iff.1 sides).1
    exact Nat.not_lt_of_le (same ▸ high) low
  rw [composePair?, joinCodes?, hangul, table]
  rfl

/-- Whether a character decomposes to a low character and marks in order, which compose to it again
one after another. -/
def isRestored (c : Char) : Bool :=
  match decomposeChar c with
  | [] => false
  | starter :: marks =>
    starter.toNat < 0x300 && marks.all (fun mark => combiningClass mark != 0) &&
      Sorting.IsSorted .rising combiningClass marks && marks.foldlM composePair? starter == some c

set_option maxRecDepth 10000 in
theorem restored_rows :
    ∀ row ∈ decompositionRows, 0x300 ≤ row.1 ∨ isRestored (Char.ofNat row.1) = true := by
  decide +kernel

theorem composeFrom_of_foldlM {starter joined : Char} {marks : List Char}
    (composed : marks.foldlM composePair? starter = some joined) :
    composeFrom starter [] marks = [joined] := by
  induction marks generalizing starter with
  | nil =>
    rw [← Option.some.inj composed]
    rfl
  | cons mark marks ih =>
    rw [List.foldlM_cons] at composed
    obtain ⟨next, first, rest⟩ := Option.bind_eq_some_iff.1 composed
    rw [composeFrom, reaches, if_pos rfl, first]
    exact ih rest

theorem decomposeChar_low {c : Char} (low : c.toNat < 0x300) :
    ∃ starter marks, decomposeChar c = starter :: marks ∧ starter.toNat < 0x300 ∧ Marks marks ∧
      Sorting.IsSorted .rising combiningClass marks ∧ composeFrom starter [] marks = [c] := by
  cases given : partsOf? c.toNat with
  | none =>
    exact ⟨c, [], decomposeChar_of_final given, low, List.forall_mem_nil _, .nil, rfl⟩
  | some parts =>
    have restored : isRestored c = true := by
      rw [partsOf?] at given
      split at given
      · next syllable =>
        have least := (isHangulSyllable_iff.1 syllable).1
        omega
      · have row := restored_rows _ (mem_decompositionRows given)
        rw [Char.ofNat_toNat] at row
        exact row.resolve_left (Nat.not_le_of_lt low)
    rw [isRestored] at restored
    cases parts : decomposeChar c with
    | nil => simp [parts] at restored
    | cons starter marks =>
      simp only [parts, Bool.and_eq_true, decide_eq_true_eq, beq_iff_eq, List.all_eq_true,
        bne_iff_ne] at restored
      obtain ⟨⟨⟨below, run⟩, sorted⟩, composed⟩ := restored
      exact ⟨starter, marks, rfl, below, run, sorted, composeFrom_of_foldlM composed⟩

theorem orderMarks_low {cs : List Char} (first : ∀ c ∈ cs.head?, c.toNat < 0x300)
    {marks : List Char} (sorted : Sorting.IsSorted .rising combiningClass marks) :
    orderMarks marks.reverse cs = marks ++ orderMarks [] cs := by
  have kept : sortMarks marks.reverse = marks := by
    rw [sortMarks, List.reverse_reverse, Sorting.sort_of_isSorted sorted]
  cases cs with
  | nil => rw [orderMarks, kept, orderMarks, sortMarks_nil, List.append_nil]
  | cons c rest =>
    have starter := combiningClass_low (first c rfl)
    rw [orderMarks, if_pos starter, orderMarks, if_pos starter, kept, sortMarks_nil, List.nil_append]

theorem composeFrom_low {cs : List Char} (first : ∀ c ∈ cs.head?, c.toNat < 0x300)
    (starter : Char) (marks run : List Char) :
    composeFrom starter marks (run ++ cs) = composeFrom starter marks run ++ recompose cs := by
  induction run generalizing starter marks with
  | nil =>
    cases cs with
    | nil => exact (List.append_nil _).symm
    | cons c rest =>
      have low := first c rfl
      have isStarter := combiningClass_low low
      rw [List.nil_append, composeFrom, composeFrom, composePair?_low starter low, ite_self,
        recompose]
      dsimp only
      rw [if_pos isStarter, if_pos isStarter]
  | cons c run ih =>
    rw [List.cons_append, composeFrom, composeFrom]
    split
    · exact ih _ _
    · split
      · rw [ih, List.append_assoc]
      · exact ih _ _

/-- Low text is decomposed to groups that are in order and compose one by one. -/
theorem composed_low {cs : List Char} (low : ∀ c ∈ cs, c.toNat < 0x300) :
    (∀ c ∈ (decompose cs).head?, c.toNat < 0x300) ∧
      orderMarks [] (decompose cs) = decompose cs ∧ recompose (decompose cs) = cs := by
  induction cs with
  | nil =>
    refine ⟨?_, sortMarks_nil, rfl⟩
    intro c none
    cases none
  | cons c rest ih =>
    obtain ⟨cLow, restLow⟩ := List.forall_mem_cons.1 low
    obtain ⟨first, ordered, composed⟩ := ih restLow
    obtain ⟨starter, marks, parts, starterLow, run, sorted, back⟩ := decomposeChar_low cLow
    have starts := combiningClass_low starterLow
    rw [decompose_cons, parts, List.cons_append]
    refine ⟨?_, ?_, ?_⟩
    · intro head isHead
      rwa [← Option.some.inj isHead]
    · rw [orderMarks, if_pos starts, orderMarks_append run, List.append_nil,
        orderMarks_low first sorted, ordered, sortMarks_nil, List.nil_append]
    · rw [recompose, if_pos starts, composeFrom_low first, back, composed]
      rfl

theorem canonical_eq_composeOnce (text : String) : canonical text = composeOnce text := by
  rw [canonical]
  split
  · next low =>
    have each : ∀ c ∈ text.toList, c.toNat < 0x300 :=
      fun c among => of_decide_eq_true (List.all_eq_true.1 low c among)
    obtain ⟨_, ordered, composed⟩ := composed_low each
    rw [composeOnce, ordered, composed, String.ofList_toList]
  · rfl

@[simp] theorem canonical_canonical (text : String) :
    canonical (canonical text) = canonical text := by
  rw [canonical_eq_composeOnce, canonical_eq_composeOnce, composeOnce_composeOnce]

/-- Two spellings of one text: their composed forms agree. -/
def Equivalent (left right : String) : Prop :=
  canonical left = canonical right

end Lexicon.Text
