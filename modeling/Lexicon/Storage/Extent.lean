import Lexicon.Storage.FileStore

/-!
# Extents

A stretch of bytes in a file that holds one dictionary: a whole file of its own or a part of a
package. An extent is taken only where its bytes are, and is checked again when it is read, since the
file may have changed in between. Offsets and lengths have 64 bits, and their sum never wraps.
-/

set_option autoImplicit false

namespace Lexicon.Storage

structure Extent where
  path : FilePath
  offset : UInt64
  length : UInt64
  /-- The extent is a file of its own, which may be deleted. -/
  wholeFile : Bool
  deriving DecidableEq, Repr

/-- The sum, unless it needs more than 64 bits. -/
def checkedSum? (left right : UInt64) : Option UInt64 :=
  if left.toNat + right.toNat < UInt64.size then some (left + right) else none

theorem checkedSum?_eq_some_iff {left right total : UInt64} :
    checkedSum? left right = some total ↔ left.toNat + right.toNat = total.toNat := by
  have bound := total.toNat_lt_size
  rw [checkedSum?]
  split
  · next small =>
    rw [Option.some.injEq, ← UInt64.toNat_inj, UInt64.toNat_add, Nat.mod_eq_of_lt small]
  · next large =>
    constructor
    · intro impossible
      cases impossible
    · omega

inductive OpenError where
  | fileNotFound (path : FilePath)
  | invalidRegion (offset length : UInt64)
  | storage (cause : IoError)
  deriving DecidableEq, Repr

/-- The text of an error that this library words itself. -/
def OpenError.message? : OpenError → Option String
  | .fileNotFound path => some ("File not found: " ++ path.text)
  | .invalidRegion offset length =>
    some ("Invalid region: offset " ++ toString offset.toNat ++ ", length " ++
      toString length.toNat)
  | .storage _ => none

namespace Extent

/-- The extent of an entire file that is not empty. -/
def ofFile? (store : FileStore) (path : FilePath) : Option Extent :=
  match store.file? path with
  | none => none
  | some content => if content.size = 0 then none else some ⟨path, 0, content.size, true⟩

/-- A part of a file that is not empty and lies within the file. -/
def ofRegion? (store : FileStore) (path : FilePath) (offset length : UInt64) : Option Extent :=
  match store.file? path, checkedSum? offset length with
  | some content, some last =>
    if length ≠ 0 ∧ last ≤ content.size then some ⟨path, offset, length, false⟩ else none
  | _, _ => none

/-- Equality with paths compared by their components. -/
def Same (left right : Extent) : Prop :=
  left.path.Same right.path ∧ left.offset = right.offset ∧ left.length = right.length ∧
    left.wholeFile = right.wholeFile

instance (left right : Extent) : Decidable (Same left right) :=
  inferInstanceAs (Decidable (_ ∧ _ ∧ _ ∧ _))

/-- The bytes of an extent in a list that holds it. -/
def slice (extent : Extent) (bytes : List UInt8) : List UInt8 :=
  (bytes.drop extent.offset.toNat).take extent.length.toNat

/-- Reads an extent. The bounds are judged by the size that storage reports, before anything is
read. -/
def read (extent : Extent) (store : FileStore) : Except OpenError (List UInt8) :=
  match store.find extent.path with
  | .error .notFound => .error (.fileNotFound extent.path)
  | .error cause => .error (.storage cause)
  | .ok (_, node) =>
    match checkedSum? extent.offset extent.length with
    | none => .error (.invalidRegion extent.offset extent.length)
    | some last =>
      if node.size < last then .error (.invalidRegion extent.offset extent.length)
      else
        match node with
        | .directory => .error (.storage .isADirectory)
        | .file content => .ok (extent.slice content.bytes)

def delete (extent : Extent) (store : FileStore) : Except IoError FileStore :=
  store.removeFile extent.path

end Extent

end Lexicon.Storage
