import Lexicon.Storage.Extent

/-!
# Quarantine

A corrupt dictionary that is a file of its own is deleted, so that it is never offered again. The
deletion is the record: there is no other. Parts of a package are left alone, and a failure is
reported and changes nothing.
-/

set_option autoImplicit false

namespace Lexicon.Storage

inductive Quarantine where
  | deleted
  /-- The file was gone already, which is as good. -/
  | alreadyGone
  /-- The extent is part of a package. -/
  | notDeletable
  | failed (cause : IoError)
  deriving DecidableEq, Repr

def Extent.quarantine (extent : Extent) (store : FileStore) : Quarantine × FileStore :=
  if extent.wholeFile then
    match extent.delete store with
    | .ok after => (.deleted, after)
    | .error .notFound => (.alreadyGone, store)
    | .error cause => (.failed cause, store)
  else
    (.notDeletable, store)

end Lexicon.Storage
