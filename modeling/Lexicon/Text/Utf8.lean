/-!
# UTF-8 over byte lists

Core's encoder and validator, stated for lists of bytes. Decoding refuses every list that is not the
encoding of some text, and an encoding decodes to the text it came from.
-/

set_option autoImplicit false

namespace Lexicon.Text

def encodeUtf8 (text : String) : List UInt8 :=
  text.toByteArray.data.toList

def decodeUtf8? (bytes : List UInt8) : Option String :=
  String.fromUTF8? ⟨bytes.toArray⟩

theorem decodeUtf8?_encodeUtf8 (text : String) : decodeUtf8? (encodeUtf8 text) = some text := by
  have same : (⟨(encodeUtf8 text).toArray⟩ : ByteArray) = text.toByteArray := by
    simp [encodeUtf8]
  rw [decodeUtf8?, same, String.fromUTF8?, dif_pos text.isValidUTF8]
  rfl

theorem encodeUtf8_of_decodeUtf8? {bytes : List UInt8} {text : String}
    (decoded : decodeUtf8? bytes = some text) : encodeUtf8 text = bytes := by
  rw [decodeUtf8?, String.fromUTF8?] at decoded
  split at decoded
  · cases decoded
    rfl
  · cases decoded

theorem decodeUtf8?_eq_some_iff {bytes : List UInt8} {text : String} :
    decodeUtf8? bytes = some text ↔ encodeUtf8 text = bytes :=
  ⟨encodeUtf8_of_decodeUtf8?, fun encoded => encoded ▸ decodeUtf8?_encodeUtf8 text⟩

theorem length_encodeUtf8 (text : String) : (encodeUtf8 text).length = text.utf8ByteSize := by
  rw [encodeUtf8, Array.length_toList]
  rfl

end Lexicon.Text
