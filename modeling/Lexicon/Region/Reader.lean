import Lexicon.Region.Layout
import Lexicon.Text.Utf8
import Lexicon.WordTable

/-!
# Reading a region

`Region.read` gives the word table of a region or the first defect it meets: those of the header in
the order of `readHeader`, then those of the entries in their order. An entry that does not fit is
reported as such even if its bytes are no UTF-8 either.

Entries whose words have one composed form become one word with the largest of their frequencies.
-/

set_option autoImplicit false

namespace Lexicon.Region

structure Header where
  size : Nat
  entryCount : Nat
  deriving DecidableEq, Repr

/-- Checks the header. The magic number is judged as soon as its four bytes are there, everything
else only in a region that holds a whole header. -/
def readHeader (bytes : List UInt8) : Except Defect Header :=
  let length := bytes.length
  if length < 4 then
    .error (.truncated length)
  else if field bytes 0 4 ≠ magic then
    .error (.badMagic (field bytes 0 4))
  else if length < leastHeader then
    .error (.truncated length)
  else if isSupported (field bytes 4 2) = false then
    .error (.unsupportedVersion (field bytes 4 2))
  else
    let size := field bytes 8 4
    if size < leastHeader ∨ length < size then
      .error (.headerSize size length)
    else
      .ok ⟨size, field bytes 12 4⟩

/-- The frequency byte, the word bytes and what follows them, if a whole record stands first. -/
def takeRecord? : List UInt8 → Option (UInt8 × List UInt8 × List UInt8)
  | frequency :: size :: rest =>
    let word := rest.take size.toNat
    if word.length = size.toNat then some (frequency, word, rest.drop size.toNat) else none
  | _ => none

def readEntries (index count : Nat) (bytes : List UInt8) : Except Defect (List Entry) :=
  match count with
  | 0 => .ok []
  | count + 1 =>
    match takeRecord? bytes with
    | none => .error (.entryOverrun index)
    | some (frequency, raw, rest) =>
      match Text.decodeUtf8? raw with
      | none => .error (.invalidWord index)
      | some word =>
        match readEntries (index + 1) count rest with
        | .error defect => .error defect
        | .ok entries => .ok (⟨word, frequency⟩ :: entries)

def tableOf (entries : List Entry) : WordTable :=
  .ofList (entries.map fun entry => (entry.word, entry.frequency.toNat))

def read (bytes : List UInt8) : Except Defect WordTable :=
  match readHeader bytes with
  | .error defect => .error defect
  | .ok header =>
    match readEntries 0 header.entryCount (bytes.drop header.size) with
    | .error defect => .error defect
    | .ok entries => .ok (tableOf entries)

end Lexicon.Region
