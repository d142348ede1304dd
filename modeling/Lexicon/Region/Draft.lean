import Lexicon.Region.Layout
import Lexicon.Text.Utf8

/-!
# Writing a region

A draft collects words for a region. Its header has no padding and no flags. A record has one byte
for the length of its word, so a word of more than 255 bytes is not taken.
-/

set_option autoImplicit false

namespace Lexicon.Region

def longestWord : Nat := 255

/-- A region to be written: its version and its entries in order, repeats included. -/
structure Draft where
  version : UInt16
  entries : List Entry
  fits : ∀ entry ∈ entries, entry.word.utf8ByteSize ≤ longestWord

namespace Draft

def empty : Draft :=
  ⟨currentVersion, [], by simp⟩

def setVersion (draft : Draft) (version : UInt16) : Draft :=
  { draft with version }

/-- Appends a word unless it is too long for a record. -/
def add (draft : Draft) (word : String) (frequency : UInt8) : Draft :=
  if short : word.utf8ByteSize ≤ longestWord then
    { draft with
      entries := draft.entries ++ [⟨word, frequency⟩]
      fits := by
        intro entry member
        rcases List.mem_append.1 member with earlier | last
        · exact draft.fits entry earlier
        · rw [List.mem_singleton.1 last]
          exact short }
  else
    draft

def renderEntry (entry : Entry) : List UInt8 :=
  entry.frequency :: UInt8.ofNat entry.word.utf8ByteSize :: Text.encodeUtf8 entry.word

def renderHeader (version : UInt16) (entryCount : Nat) : List UInt8 :=
  toBytes 4 magic ++ toBytes 2 version.toNat ++ toBytes 2 0 ++ toBytes 4 leastHeader ++
    toBytes 4 entryCount

/-- The bytes of a draft. There are none if the entries are too many to be counted in the header. -/
def render? (draft : Draft) : Option (List UInt8) :=
  if draft.entries.length < UInt32.size then
    some (renderHeader draft.version draft.entries.length ++ draft.entries.flatMap renderEntry)
  else
    none

end Draft

end Lexicon.Region
