import Lexicon.Json.Reader
import Lexicon.Json.Record
import Lexicon.Locale
import Lexicon.Storage.Extent

/-!
# Bundles

A package file with named regions inside it, as a manifest lists them. Names are compared up to the
case of ASCII letters, and of several entries with one name the last one decides, even if it does not
fit into the package. Whether an entry fits is judged whenever it is looked up, by the package file as
it is then.
-/

set_option autoImplicit false

namespace Lexicon

open Storage

structure Resource where
  name : String
  offset : UInt64
  length : UInt64
  deriving DecidableEq, Repr

namespace Resource

def fields : List String :=
  ["name", "offset", "length"]

def ofJson? (value : Json) : Option Resource := do
  let record ← value.record? fields
  let name ← record.required? "name" Json.string?
  let offset ← record.required? "offset" Json.natural?
  let length ← record.required? "length" Json.natural?
  some { name, offset, length }

end Resource

structure Manifest where
  resources : List Resource := []
  deriving DecidableEq, Repr

namespace Manifest

def fields : List String :=
  ["resources"]

def resources? (value : Json) : Option (List Resource) :=
  value.array?.bind fun values => values.mapM Resource.ofJson?

def ofJson? (value : Json) : Option Manifest := do
  let record ← value.record? fields
  let resources ← record.getD? "resources" resources? []
  some { resources }

end Manifest

inductive BundleError where
  | storage (cause : IoError)
  /-- The manifest is no JSON or its value is no manifest. -/
  | malformed
  | notAFile (path : FilePath)
  deriving DecidableEq, Repr

/-- The text of an error that this library words itself. -/
def BundleError.message? : BundleError → Option String
  | .notAFile path => some ("Package is not a file: " ++ path.text)
  | _ => none

structure Bundle where
  path : FilePath
  resources : List Resource
  deriving DecidableEq, Repr

namespace Bundle

def ofManifest (store : FileStore) (path : FilePath) (manifest : Manifest) :
    Except BundleError Bundle :=
  match store.file? path with
  | none => .error (.notAFile path)
  | some _ => .ok ⟨path, manifest.resources⟩

def readManifest (store : FileStore) (path : FilePath) : Except BundleError Manifest :=
  match store.find path with
  | .error cause => .error (.storage cause)
  | .ok (_, .directory) => .error .malformed
  | .ok (_, .file content) =>
    match (Json.ofBytes? content.bytes).bind Manifest.ofJson? with
    | none => .error .malformed
    | some manifest => .ok manifest

/-- The bundle of a package with its manifest in a file. The manifest is read first. -/
def load (store : FileStore) (path manifestPath : FilePath) : Except BundleError Bundle :=
  match readManifest store manifestPath with
  | .error cause => .error cause
  | .ok manifest => ofManifest store path manifest

/-- The last entry with a name, up to case. -/
def resource? (bundle : Bundle) (name : String) : Option Resource :=
  bundle.resources.reverse.find? fun resource => Text.lowered resource.name == Text.lowered name

/-- The region with a name, if it lies in the package file now. -/
def locate? (bundle : Bundle) (store : FileStore) (name : String) : Option Extent :=
  match bundle.resource? name with
  | none => none
  | some resource => Extent.ofRegion? store bundle.path resource.offset resource.length

/-- The names that a main dictionary may have, the most specific first. Without a locale there is
only the bare name. -/
def mainNames (stem : String) : Option Locale → List String
  | none => [stem]
  | some locale => locale.suffixes.map fun suffix => stem ++ "_" ++ suffix

def mainDictionary? (bundle : Bundle) (store : FileStore) (stem : String)
    (locale : Option Locale) : Option Extent :=
  (mainNames stem locale).findSome? (bundle.locate? store)

end Bundle

end Lexicon
