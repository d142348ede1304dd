import Lexicon.Json.Reader
import Lexicon.Proofs.Text.ByteOrder

/-!
# Quoted texts

A text in which nothing has to be escaped stands as it is between quotes. Read as JSON it is a string,
and the string is the text.
-/

set_option autoImplicit false

namespace Lexicon.Json

/-- A JSON string holds the character as it is: no quote, no backslash, no control character. -/
def StandsPlain (c : Char) : Prop :=
  0x20 ≤ c.toNat ∧ c ≠ '"' ∧ c ≠ '\\'

def quoted (text : String) : String :=
  "\"" ++ text ++ "\""

/-- The byte neither ends a string nor begins an escape, nor is it a control character. -/
def IsPlainByte (byte : UInt8) : Prop :=
  0x20 ≤ byte.toNat ∧ byte.toNat ≠ 0x22 ∧ byte.toNat ≠ 0x5C

theorem isPlainByte_of_mem_utf8EncodeChar {c : Char} (plain : StandsPlain c) {byte : UInt8}
    (member : byte ∈ String.utf8EncodeChar c) : IsPlainByte byte := by
  obtain ⟨printed, no_quote, no_backslash⟩ := plain
  rw [Ne, ← Char.toNat_inj] at no_quote no_backslash
  have quote : '"'.toNat = 0x22 := rfl
  have backslash : '\\'.toNat = 0x5C := rfl
  rw [quote] at no_quote
  rw [backslash] at no_backslash
  rw [IsPlainByte]
  rcases Text.toNat_of_mem_utf8EncodeChar member with same | ⟨above, _⟩ <;> omega

theorem readPieces_cons_of_plain {byte : UInt8} (plain : IsPlainByte byte) (rest : List UInt8) :
    readPieces (byte :: rest) =
      (readPieces rest).map fun (pieces, rest) => (.byte byte :: pieces, rest) := by
  obtain ⟨printed, no_quote, no_backslash⟩ := plain
  have shown : ¬ byte < 0x20 := by
    rw [UInt8.lt_iff_toNat_lt]
    exact Nat.not_lt.2 printed
  rw [readPieces, if_neg shown]
  · cases readPieces rest <;> rfl
  · rintro rfl
    exact no_quote rfl
  · rintro _ _ _ _ _ rfl
    exact absurd rfl no_backslash
  · rintro _ _ rfl
    exact absurd rfl no_backslash

theorem readPieces_append_quote {bytes : List UInt8} (plain : ∀ byte ∈ bytes, IsPlainByte byte)
    (rest : List UInt8) :
    readPieces (bytes ++ 0x22 :: rest) = some (bytes.map .byte, rest) := by
  induction bytes with
  | nil => rfl
  | cons byte bytes ih =>
    obtain ⟨first, later⟩ := List.forall_mem_cons.1 plain
    rw [List.cons_append, readPieces_cons_of_plain first, ih later, Option.map_some, List.map_cons]

theorem bytesOf?_map_byte (bytes : List UInt8) : bytesOf? (bytes.map .byte) = some bytes := by
  induction bytes with
  | nil => rfl
  | cons byte bytes ih => rw [List.map_cons, bytesOf?, ih, Option.map_some]

theorem encodeUtf8_quoted (text : String) :
    Text.encodeUtf8 (quoted text) = 0x22 :: (Text.encodeUtf8 text ++ [0x22]) := by
  have quote : Text.encodeUtf8 "\"" = [0x22] := rfl
  rw [quoted, Text.encodeUtf8_append, Text.encodeUtf8_append, quote]
  rfl

theorem readString_encodeUtf8 {text : String} (plain : ∀ c ∈ text.toList, StandsPlain c) :
    readString (Text.encodeUtf8 text ++ [0x22]) = some (some text, []) := by
  have bytes : ∀ byte ∈ Text.encodeUtf8 text, IsPlainByte byte := by
    intro byte member
    rw [Text.encodeUtf8_eq_flatMap, List.mem_flatMap] at member
    obtain ⟨c, held, member⟩ := member
    exact isPlainByte_of_mem_utf8EncodeChar (plain c held) member
  rw [readString, readPieces_append_quote bytes, Option.map_some]
  simp only [bytesOf?_map_byte, Text.decodeUtf8?_encodeUtf8]

theorem ofBytes?_quoted {text : String} (plain : ∀ c ∈ text.toList, StandsPlain c) :
    ofBytes? (Text.encodeUtf8 (quoted text)) = some (.string text) := by
  have value (bound : Nat) : readValue (bound + 1) (Text.encodeUtf8 (quoted text)) =
      some (.string text, []) := by
    have unblank : skipBlanks (Text.encodeUtf8 (quoted text)) =
        0x22 :: (Text.encodeUtf8 text ++ [0x22]) := by
      rw [encodeUtf8_quoted]
      rfl
    rw [readValue, unblank]
    simp only [readString_encodeUtf8 plain, Option.map_some]
  rw [ofBytes?, value]
  rfl

end Lexicon.Json
