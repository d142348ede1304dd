import Lexicon.Text.Utf8

/-!
# The order of encoded text

Texts are in the order of their bytes: a larger character has the larger encoding at the first byte
where the two differ, and a text that starts another one encodes to a start of its bytes. So sorting
names as texts and sorting them as bytes is the same.
-/

set_option autoImplicit false

namespace Lexicon.Text

theorem encodeUtf8_eq_flatMap (text : String) :
    encodeUtf8 text = text.toList.flatMap String.utf8EncodeChar := by
  rw [encodeUtf8, ← String.utf8Encode_toList, List.utf8Encode, List.data_toByteArray]

theorem encodeUtf8_append (left right : String) :
    encodeUtf8 (left ++ right) = encodeUtf8 left ++ encodeUtf8 right := by
  rw [encodeUtf8_eq_flatMap, encodeUtf8_eq_flatMap, encodeUtf8_eq_flatMap, String.toList_append,
    List.flatMap_append]

/-- A byte below 0x80 stands for the character of its own code, and that character has no other. -/
theorem toNat_of_mem_utf8EncodeChar {c : Char} {byte : UInt8}
    (member : byte ∈ String.utf8EncodeChar c) :
    byte.toNat = c.toNat ∨ 0x80 ≤ byte.toNat ∧ 0x80 ≤ c.toNat := by
  have bound : c.val.toNat < 0x110000 := by
    have valid : c.val.toNat.isValidChar := c.valid
    rcases valid with plain | ⟨_, beyond⟩ <;> omega
  change byte.toNat = c.val.toNat ∨ 0x80 ≤ byte.toNat ∧ 0x80 ≤ c.val.toNat
  unfold String.utf8EncodeChar at member
  generalize c.val.toNat = code at *
  dsimp only at member
  split at member
  · rw [List.mem_singleton] at member
    rw [member, UInt8.toNat_ofNat']
    omega
  · repeat' split at member
    all_goals
      simp only [List.mem_cons, List.not_mem_nil, or_false] at member
      rcases member with rfl | rfl | rfl | rfl <;> rw [UInt8.toNat_ofNat'] <;> omega

private theorem utf8EncodeChar_append_lt {low high : Char} (below : low < high)
    (left right : List UInt8) :
    String.utf8EncodeChar low ++ left < String.utf8EncodeChar high ++ right := by
  have less : low.val.toNat < high.val.toNat := below
  have bound : high.val.toNat < 0x110000 := by
    have valid : high.val.toNat.isValidChar := high.valid
    rcases valid with plain | ⟨_, beyond⟩ <;> omega
  unfold String.utf8EncodeChar
  generalize low.val.toNat = first at less
  generalize high.val.toNat = second at less bound
  have follower (n : Nat) : (n % 64 + 128) % 256 = n % 64 + 128 := by omega
  have twice (n : Nat) : n / 4096 = n / 64 / 64 := by omega
  have thrice (n : Nat) : n / 262144 = n / 64 / 64 / 64 := by omega
  dsimp only
  -- A longer encoding starts with a larger byte, and encodings of one length differ first where the
  -- characters do in base 64.
  repeat' split
  all_goals try omega
  all_goals simp only [List.cons_append, List.nil_append, List.cons_lt_cons_iff,
    UInt8.lt_iff_toNat_lt, ← UInt8.toNat_inj, UInt8.toNat_ofNat', follower, twice, thrice]
  all_goals omega

private theorem flatMap_utf8EncodeChar_lt {left right : List Char} (below : left < right) :
    left.flatMap String.utf8EncodeChar < right.flatMap String.utf8EncodeChar := by
  induction left generalizing right with
  | nil =>
    cases right with
    | nil => exact absurd below (List.lt_irrefl _)
    | cons head tail =>
      rw [List.flatMap_cons]
      cases encoded : String.utf8EncodeChar head with
      | nil => exact absurd encoded String.utf8EncodeChar_ne_nil
      | cons byte bytes => exact List.nil_lt_cons byte _
  | cons first rest ih =>
    cases right with
    | nil => exact absurd below (List.not_lt_nil _)
    | cons head tail =>
      rw [List.flatMap_cons, List.flatMap_cons]
      rcases List.cons_lt_cons_iff.1 below with smaller | ⟨rfl, later⟩
      · exact utf8EncodeChar_append_lt smaller _ _
      · exact List.append_left_lt (ih later)

/-- Texts are in the order of their bytes. -/
theorem encodeUtf8_lt_iff {left right : String} :
    encodeUtf8 left < encodeUtf8 right ↔ left < right := by
  rw [encodeUtf8_eq_flatMap, encodeUtf8_eq_flatMap, String.lt_iff]
  constructor
  · intro below
    rcases Decidable.em (left.toList < right.toList) with smaller | other
    · exact smaller
    · rcases List.le_iff_lt_or_eq.1 (List.not_lt.1 other) with larger | same
      · exact absurd (List.lt_trans below (flatMap_utf8EncodeChar_lt larger)) (List.lt_irrefl _)
      · rw [same] at below
        exact absurd below (List.lt_irrefl _)
  · exact flatMap_utf8EncodeChar_lt

/-! ## Texts that start others -/

private theorem eq_of_utf8EncodeChar_append {first second : Char} {left right : List UInt8}
    (same : String.utf8EncodeChar first ++ left = String.utf8EncodeChar second ++ right) :
    first = second := by
  by_cases below : first < second
  · have less := utf8EncodeChar_append_lt below left right
    exact absurd (same ▸ less) (List.lt_irrefl _)
  by_cases above : second < first
  · have less := utf8EncodeChar_append_lt above right left
    exact absurd (same ▸ less) (List.lt_irrefl _)
  exact Char.le_antisymm (Char.not_lt.1 above) (Char.not_lt.1 below)

private theorem isPrefix_of_flatMap_utf8EncodeChar {start text : List Char}
    (begins : start.flatMap String.utf8EncodeChar <+: text.flatMap String.utf8EncodeChar) :
    start <+: text := by
  induction start generalizing text with
  | nil => exact List.nil_prefix
  | cons first rest ih =>
    cases text with
    | nil =>
      have nothing := List.prefix_nil.1 begins
      rw [List.flatMap_cons, List.append_eq_nil_iff] at nothing
      exact absurd nothing.1 String.utf8EncodeChar_ne_nil
    | cons head tail =>
      obtain ⟨more, same⟩ := begins
      rw [List.flatMap_cons, List.flatMap_cons, List.append_assoc] at same
      obtain rfl := eq_of_utf8EncodeChar_append same
      exact (List.prefix_cons_inj first).2 (ih ⟨more, List.append_cancel_left same⟩)

/-- A text starts another one if its bytes start the bytes of the other. -/
theorem encodeUtf8_isPrefix_iff {start text : String} :
    encodeUtf8 start <+: encodeUtf8 text ↔ start.toList <+: text.toList := by
  rw [encodeUtf8_eq_flatMap, encodeUtf8_eq_flatMap]
  constructor
  · exact isPrefix_of_flatMap_utf8EncodeChar
  · intro ⟨rest, split⟩
    rw [← split, List.flatMap_append]
    exact List.prefix_append _ _

end Lexicon.Text
