import Lexicon.Text.Canonical.Data

/-!
# Canonical decomposition of a character

What a character decomposes to in the end, and which pairs compose. Some parts of a decomposition
decompose themselves, but no chain is longer than four. The main statement is that a composed pair
decomposes to the decompositions of its two sides.

What is said of all rows of the tables is checked row by row, with the rows in a search tree.
-/

set_option autoImplicit false

namespace Lexicon.Text

/-! ## Rows in a search tree -/

/-- A search tree of rows. A lookup has as many steps as the tree has levels, so that every row of a
table can be looked up in a proof. -/
inductive Index (β : Type) where
  | empty
  | node (below : Index β) (key : Nat) (value : β) (above : Index β)

namespace Index

variable {β : Type}

/-- A tree of that depth with the first rows, which are in the order of their keys, and the rows that
are left. -/
def build : Nat → List (Nat × β) → Index β × List (Nat × β)
  | 0, rows => (.empty, rows)
  | depth + 1, rows =>
    match build depth rows with
    | (below, []) => (below, [])
    | (below, (key, value) :: rest) =>
      let (above, rest) := build depth rest
      (.node below key value above, rest)

def find? (asked : Nat) : Index β → Option β
  | .empty => none
  | .node below key value above =>
    bif asked.beq key then some value
    else bif asked.ble key then below.find? asked
    else above.find? asked

def toList : Index β → List (Nat × β)
  | .empty => []
  | .node below key value above => below.toList ++ (key, value) :: above.toList

theorem toList_build (depth : Nat) (rows : List (Nat × β)) :
    (build depth rows).1.toList ++ (build depth rows).2 = rows := by
  induction depth generalizing rows with
  | zero => rfl
  | succ depth ih =>
    have first := ih rows
    rw [build]
    cases below : build depth rows with
    | mk tree left =>
      rw [below] at first
      cases left with
      | nil => exact first
      | cons row rest =>
        have second := ih rest
        dsimp only at first ⊢
        rw [toList, List.append_assoc, List.cons_append, second, first]

theorem mem_toList_of_find? {index : Index β} {asked : Nat} {value : β}
    (found : index.find? asked = some value) : (asked, value) ∈ index.toList := by
  induction index with
  | empty => cases found
  | node below key held above belowIH aboveIH =>
    rw [find?] at found
    rw [toList, List.mem_append, List.mem_cons]
    cases here : asked.beq key with
    | true =>
      rw [here, cond_true, Option.some.injEq] at found
      rw [Nat.eq_of_beq_eq_true here, found]
      exact .inr (.inl rfl)
    | false =>
      rw [here, cond_false] at found
      cases before : asked.ble key with
      | true =>
        rw [before, cond_true] at found
        exact .inl (belowIH found)
      | false =>
        rw [before, cond_false] at found
        exact .inr (.inr (aboveIH found))

theorem mem_of_find?_build {depth : Nat} {rows : List (Nat × β)} {asked : Nat} {value : β}
    (found : (build depth rows).1.find? asked = some value) : (asked, value) ∈ rows := by
  have among := List.mem_append_left (build depth rows).2 (mem_toList_of_find? found)
  rwa [toList_build] at among

end Index

/-! ## Expansion

The parts of a code, their parts and so on, down to some depth. -/

def expand (parts? : Nat → Option (List Nat)) (depth code : Nat) : List Nat :=
  match depth with
  | 0 => [code]
  | depth + 1 =>
    match parts? code with
    | none => [code]
    | some parts => parts.flatMap (expand parts? depth)

section Expand

variable {parts? : Nat → Option (List Nat)} {code : Nat}

theorem expand_of_none (final : parts? code = none) (depth : Nat) :
    expand parts? depth code = [code] := by
  cases depth with
  | zero => rfl
  | succ depth => rw [expand, final]

theorem expand_of_some {parts : List Nat} (given : parts? code = some parts) (depth : Nat) :
    expand parts? (depth + 1) code = parts.flatMap (expand parts? depth) := by
  rw [expand, given]

/-- Once nothing is left to expand, going on changes nothing. -/
theorem expand_succ {depth : Nat}
    (settled : ∀ last ∈ expand parts? depth code, parts? last = none) :
    expand parts? (depth + 1) code = expand parts? depth code := by
  induction depth generalizing code with
  | zero => exact expand_of_none (settled code List.mem_cons_self) 1
  | succ depth ih =>
    cases given : parts? code with
    | none => rw [expand_of_none given, expand_of_none given]
    | some parts =>
      rw [expand_of_some given] at settled
      rw [expand_of_some given, expand_of_some given]
      have alike : ∀ part ∈ parts, expand parts? (depth + 1) part = expand parts? depth part := by
        intro part among
        exact ih fun last member => settled last (List.mem_flatMap.2 ⟨part, among, member⟩)
      rw [List.flatMap_def, List.flatMap_def, List.map_congr_left alike]

/-- Whether nothing is left to expand at that depth. -/
def settles (parts? : Nat → Option (List Nat)) (depth code : Nat) : Bool :=
  match parts? code with
  | none => true
  | some parts =>
    match depth with
    | 0 => false
    | depth + 1 => parts.all (settles parts? depth)

theorem final_of_settles {depth last : Nat} (settled : settles parts? depth code = true)
    (among : last ∈ expand parts? depth code) : parts? last = none := by
  induction depth generalizing code with
  | zero =>
    rw [expand, List.mem_singleton] at among
    rw [among]
    cases given : parts? code with
    | none => rfl
    | some parts => simp [settles, given] at settled
  | succ depth ih =>
    cases given : parts? code with
    | none =>
      rw [expand_of_none given, List.mem_singleton] at among
      rw [among, given]
    | some parts =>
      rw [expand_of_some given, List.mem_flatMap] at among
      obtain ⟨part, own, deeper⟩ := among
      rw [settles, given] at settled
      exact ih (List.all_eq_true.1 settled part own) deeper

theorem of_mem_expand {P : Nat → Prop}
    (kept : ∀ code parts, parts? code = some parts → P code → ∀ part ∈ parts, P part)
    {depth : Nat} (holds : P code) {last : Nat} (among : last ∈ expand parts? depth code) :
    P last := by
  induction depth generalizing code with
  | zero =>
    rw [expand, List.mem_singleton] at among
    rw [among]
    exact holds
  | succ depth ih =>
    cases given : parts? code with
    | none =>
      rw [expand_of_none given, List.mem_singleton] at among
      rw [among]
      exact holds
    | some parts =>
      rw [expand_of_some given, List.mem_flatMap] at among
      obtain ⟨part, own, deeper⟩ := among
      exact ih (kept code parts given holds part own) deeper

end Expand

/-! ## Hangul

A syllable block has code `0xAC00 + (588 * lead + 28 * vowel + tail)`, where a tail of zero stands
for none. -/

def hangulParts (code : Nat) : List Nat :=
  let index := code - 0xAC00
  let pair := [0x1100 + index / 588, 0x1161 + index % 588 / 28]
  if index % 28 = 0 then pair else pair ++ [0x11A7 + index % 28]

def isHangulSyllable (code : Nat) : Bool :=
  0xAC00 ≤ code && code < 0xAC00 + 11172

/-- Joins a leading consonant with a vowel, or an open syllable with a closing consonant. -/
def joinHangul? (first second : Nat) : Option Nat :=
  if 0x1100 ≤ first ∧ first < 0x1113 ∧ 0x1161 ≤ second ∧ second < 0x1176 then
    some (0xAC00 + ((first - 0x1100) * 21 + (second - 0x1161)) * 28)
  else if isHangulSyllable first ∧ (first - 0xAC00) % 28 = 0 ∧ 0x11A8 ≤ second ∧
      second < 0x11C3 then
    some (first + (second - 0x11A7))
  else
    none

theorem isHangulSyllable_iff {code : Nat} :
    isHangulSyllable code = true ↔ 0xAC00 ≤ code ∧ code < 0xAC00 + 11172 := by
  rw [isHangulSyllable, Bool.and_eq_true, decide_eq_true_eq, decide_eq_true_eq]

theorem bounds_of_mem_hangulParts {code part : Nat} (syllable : isHangulSyllable code = true)
    (among : part ∈ hangulParts code) : 0x1100 ≤ part ∧ part < 0x1200 := by
  rw [isHangulSyllable_iff] at syllable
  rw [hangulParts] at among
  split at among <;> simp at among <;> omega

theorem hangulParts_open {lead vowel : Nat} (least : vowel < 21) :
    hangulParts (0xAC00 + (lead * 21 + vowel) * 28) = [0x1100 + lead, 0x1161 + vowel] := by
  have index : 0xAC00 + (lead * 21 + vowel) * 28 - 0xAC00 = (lead * 21 + vowel) * 28 := by omega
  have leads : (lead * 21 + vowel) * 28 / 588 = lead := by omega
  have vowels : (lead * 21 + vowel) * 28 % 588 / 28 = vowel := by omega
  have tails : (lead * 21 + vowel) * 28 % 28 = 0 := by omega
  rw [hangulParts, index, leads, vowels, tails]
  exact if_pos rfl

theorem hangulParts_closed {code tail : Nat} (syllable : 0xAC00 ≤ code)
    (opened : (code - 0xAC00) % 28 = 0) (least : 0 < tail) (most : tail < 28) :
    hangulParts (code + tail) = hangulParts code ++ [0x11A7 + tail] := by
  have shifted : code + tail - 0xAC00 = code - 0xAC00 + tail := by omega
  rw [hangulParts, hangulParts, shifted]
  generalize code - 0xAC00 = index at opened
  have leads : (index + tail) / 588 = index / 588 := by omega
  have vowels : (index + tail) % 588 / 28 = index % 588 / 28 := by omega
  have tails : (index + tail) % 28 = tail := by omega
  rw [leads, vowels, tails, if_neg (Nat.ne_of_gt least), if_pos opened]

/-! ## The tables -/

/-- A character's code with the codes it decomposes to. -/
def composedRows : List (Nat × List Nat) :=
  CanonicalData.composed.map fun (code, first, second) => (code, [first, second])

def ideographRows : List (Nat × List Nat) :=
  CanonicalData.ideographs.map fun (code, other) => (code, [other])

def decompositionRows : List (Nat × List Nat) :=
  composedRows ++ CanonicalData.uncomposed ++ ideographRows

def composedIndex : Index (List Nat) := (Index.build 10 composedRows).1

def uncomposedIndex : Index (List Nat) := (Index.build 7 CanonicalData.uncomposed).1

def ideographIndex : Index (List Nat) := (Index.build 10 ideographRows).1

@[irreducible]
def tableParts? (code : Nat) : Option (List Nat) :=
  (composedIndex.find? code).or ((uncomposedIndex.find? code).or (ideographIndex.find? code))

def partsOf? (code : Nat) : Option (List Nat) :=
  if isHangulSyllable code then some (hangulParts code) else tableParts? code

theorem mem_decompositionRows {code : Nat} {parts : List Nat}
    (found : tableParts? code = some parts) : (code, parts) ∈ decompositionRows := by
  rw [tableParts?, Option.or_eq_some_iff, Option.or_eq_some_iff] at found
  rw [decompositionRows, List.mem_append, List.mem_append]
  rcases found with composed | ⟨_, uncomposed | ⟨_, ideograph⟩⟩
  · exact .inl (.inl (Index.mem_of_find?_build composed))
  · exact .inl (.inr (Index.mem_of_find?_build uncomposed))
  · exact .inr (Index.mem_of_find?_build ideograph)

/-! ## One character -/

set_option maxRecDepth 10000 in
theorem settled_rows : ∀ row ∈ decompositionRows, ∀ part ∈ row.2,
    part.isValidChar ∧ settles partsOf? 3 part = true := by
  decide +kernel

set_option maxRecDepth 10000 in
theorem composed_rows : ∀ row ∈ CanonicalData.composed,
    row.1.isValidChar ∧ partsOf? row.1 = some [row.2.1, row.2.2] := by
  decide +kernel

theorem partsOf?_jamo : ∀ index < 256, partsOf? (0x1100 + index) = none := by
  decide +kernel

theorem partsOf?_of_jamo {part : Nat} (least : 0x1100 ≤ part) (most : part < 0x1200) :
    partsOf? part = none := by
  have final := partsOf?_jamo (part - 0x1100) (by omega)
  rwa [show 0x1100 + (part - 0x1100) = part by omega] at final

theorem partsOf?_hangul {code : Nat} (syllable : isHangulSyllable code = true) :
    partsOf? code = some (hangulParts code) := by
  rw [partsOf?, if_pos syllable]

/-- The full decomposition of a code. -/
def decomposeCode (code : Nat) : List Nat :=
  expand partsOf? 4 code

theorem decomposeCode_of_none {code : Nat} (final : partsOf? code = none) :
    decomposeCode code = [code] :=
  expand_of_none final 4

theorem settles_of_parts {code part : Nat} {parts : List Nat} (given : partsOf? code = some parts)
    (own : part ∈ parts) : part.isValidChar ∧ settles partsOf? 3 part = true := by
  rw [partsOf?] at given
  split at given
  · next syllable =>
    rw [← Option.some.inj given] at own
    obtain ⟨least, most⟩ := bounds_of_mem_hangulParts syllable own
    refine ⟨.inl (by omega), ?_⟩
    rw [settles, partsOf?_of_jamo least most]
  · exact settled_rows _ (mem_decompositionRows given) part own

theorem partsOf?_of_mem_decomposeCode {code last : Nat} (among : last ∈ decomposeCode code) :
    partsOf? last = none := by
  refine final_of_settles ?_ among
  rw [settles]
  cases given : partsOf? code with
  | none => rfl
  | some parts => exact List.all_eq_true.2 fun part own => (settles_of_parts given own).2

theorem isValidChar_of_mem_decomposeCode {code last : Nat} (valid : code.isValidChar)
    (among : last ∈ decomposeCode code) : last.isValidChar := by
  refine of_mem_expand ?_ valid among
  intro code parts given _ part own
  exact (settles_of_parts given own).1

theorem decomposeCode_of_parts {code : Nat} {parts : List Nat} (given : partsOf? code = some parts) :
    decomposeCode code = parts.flatMap decomposeCode := by
  have alike : ∀ part ∈ parts, expand partsOf? 3 part = decomposeCode part := by
    intro part own
    have settled := (settles_of_parts given own).2
    exact (expand_succ fun last among => final_of_settles settled among).symm
  rw [decomposeCode, expand_of_some given, List.flatMap_def, List.flatMap_def,
    List.map_congr_left alike]

/-! ## Composition -/

def joinTable? (first second : Nat) : Option Nat :=
  (CanonicalData.composed.find? fun (_, left, right) => right == second && left == first).map
    Prod.fst

def joinCodes? (first second : Nat) : Option Nat :=
  (joinHangul? first second).or (joinTable? first second)

theorem decomposeCode_hangul {code : Nat} (syllable : isHangulSyllable code = true) :
    decomposeCode code = hangulParts code := by
  have final : ∀ part ∈ hangulParts code, decomposeCode part = [part] := by
    intro part own
    obtain ⟨least, most⟩ := bounds_of_mem_hangulParts syllable own
    exact decomposeCode_of_none (partsOf?_of_jamo least most)
  rw [decomposeCode_of_parts (partsOf?_hangul syllable), List.flatMap_def,
    List.map_congr_left final]
  induction hangulParts code with
  | nil => rfl
  | cons part rest ih => exact congrArg (part :: ·) ih

theorem decomposeCode_joinHangul? {first second code : Nat}
    (joined : joinHangul? first second = some code) :
    isHangulSyllable code = true ∧ decomposeCode code = decomposeCode first ++ [second] := by
  rw [joinHangul?] at joined
  split at joined
  · next bounds =>
    obtain ⟨least, most, least', most'⟩ := bounds
    have syllable : isHangulSyllable code = true := by
      rw [← Option.some.inj joined, isHangulSyllable_iff]
      omega
    refine ⟨syllable, ?_⟩
    rw [decomposeCode_hangul syllable, ← Option.some.inj joined, hangulParts_open (by omega),
      decomposeCode_of_none (partsOf?_of_jamo least (by omega))]
    rw [show 0x1100 + (first - 0x1100) = first by omega,
      show 0x1161 + (second - 0x1161) = second by omega]
    rfl
  · split at joined
    · next bounds =>
      obtain ⟨opening, opened, least, most⟩ := bounds
      have bounds := isHangulSyllable_iff.1 opening
      have syllable : isHangulSyllable code = true := by
        rw [← Option.some.inj joined, isHangulSyllable_iff]
        omega
      refine ⟨syllable, ?_⟩
      rw [decomposeCode_hangul syllable, decomposeCode_hangul opening, ← Option.some.inj joined,
        hangulParts_closed bounds.1 opened (by omega) (by omega),
        show 0x11A7 + (second - 0x11A7) = second by omega]
    · cases joined

/-- Of a pair whose second side is final, the joined character decomposes as the pair does. -/
theorem decomposeCode_joinCodes? {first second code : Nat}
    (joined : joinCodes? first second = some code) (final : partsOf? second = none) :
    code.isValidChar ∧ decomposeCode code = decomposeCode first ++ [second] := by
  rw [joinCodes?, Option.or_eq_some_iff] at joined
  rcases joined with hangul | ⟨_, table⟩
  · obtain ⟨syllable, parts⟩ := decomposeCode_joinHangul? hangul
    rw [isHangulSyllable_iff] at syllable
    exact ⟨.inl (by omega), parts⟩
  · rw [joinTable?, Option.map_eq_some_iff] at table
    obtain ⟨row, found, codeEq⟩ := table
    have sides := List.find?_some found
    rw [Bool.and_eq_true, beq_iff_eq, beq_iff_eq] at sides
    obtain ⟨valid, parts⟩ := composed_rows row (List.mem_of_find?_eq_some found)
    rw [sides.1, sides.2, codeEq] at parts
    rw [← codeEq]
    refine ⟨valid, ?_⟩
    rw [codeEq, decomposeCode_of_parts parts, List.flatMap_cons, List.flatMap_cons,
      List.flatMap_nil, List.append_nil, decomposeCode_of_none final]

end Lexicon.Text
