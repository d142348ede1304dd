import Lexicon.Json.Record
import Lexicon.Storage.FilePath

/-!
# Settings

Where dictionaries are found and how their files are named. Every setting has a default, so any part
of them may be left out of a settings file.
-/

set_option autoImplicit false

namespace Lexicon

open Storage

structure DictionarySettings where
  /-- Without this no main dictionary is loaded at all. -/
  enabled : Bool := true
  dataDirectory : FilePath := ⟨"data"⟩
  /-- Where dictionaries that a user installed are, if not in `custom` below the data directory. -/
  customDirectory : Option FilePath := none
  /-- Where packaged dictionaries are, one directory for each locale, if not in `dicts` below the
  data directory. -/
  assetsDirectory : Option FilePath := none
  packagePath : Option FilePath := none
  packageManifest : Option FilePath := none
  /-- The extension of dictionary files, without its dot. -/
  extension : String := "dict"
  mainStem : String := "main"
  deriving DecidableEq, Repr

namespace DictionarySettings

def customRoot (settings : DictionarySettings) : FilePath :=
  settings.customDirectory.getD (settings.dataDirectory.join ⟨"custom"⟩)

def assetsRoot (settings : DictionarySettings) : FilePath :=
  settings.assetsDirectory.getD (settings.dataDirectory.join ⟨"dicts"⟩)

/-- The file name of a main dictionary, for instance `main_en_US.dict`. -/
def mainFileName (settings : DictionarySettings) (tag : String) : String :=
  settings.mainStem ++ "_" ++ tag ++ "." ++ settings.extension

/-- The fields in the order in which an array gives them. -/
def fields : List String :=
  ["enabled", "data_dir", "custom_dir", "assets_dir", "package_path", "package_manifest",
    "extension", "main_prefix"]

def path? (value : Json) : Option FilePath :=
  value.string?.map FilePath.mk

/-- Reads settings. Fields that are left out have their defaults; only the four optional paths may be
null. -/
def ofJson? (value : Json) : Option DictionarySettings := do
  let record ← value.record? fields
  let base : DictionarySettings := {}
  let enabled ← record.getD? "enabled" Json.bool? base.enabled
  let dataDirectory ← record.getD? "data_dir" path? base.dataDirectory
  let customDirectory ← record.getD? "custom_dir" (Json.nullable? path?) base.customDirectory
  let assetsDirectory ← record.getD? "assets_dir" (Json.nullable? path?) base.assetsDirectory
  let packagePath ← record.getD? "package_path" (Json.nullable? path?) base.packagePath
  let packageManifest ←
    record.getD? "package_manifest" (Json.nullable? path?) base.packageManifest
  let extension ← record.getD? "extension" Json.string? base.extension
  let mainStem ← record.getD? "main_prefix" Json.string? base.mainStem
  some {
    enabled, dataDirectory, customDirectory, assetsDirectory, packagePath, packageManifest,
    extension, mainStem }

def jsonOfPath (path : Option FilePath) : Json :=
  .ofOption (path.map fun path => .string path.text)

def values (settings : DictionarySettings) : List Json :=
  [.bool settings.enabled, .string settings.dataDirectory.text,
    jsonOfPath settings.customDirectory, jsonOfPath settings.assetsDirectory,
    jsonOfPath settings.packagePath, jsonOfPath settings.packageManifest,
    .string settings.extension, .string settings.mainStem]

def toJson (settings : DictionarySettings) : Json :=
  .ofMembers (fields.zip settings.values)

end DictionarySettings

structure Settings where
  dictionary : DictionarySettings := {}
  deriving DecidableEq, Repr

namespace Settings

def fields : List String :=
  ["dictionary"]

def ofJson? (value : Json) : Option Settings := do
  let record ← value.record? fields
  let dictionary ← record.getD? "dictionary" DictionarySettings.ofJson? {}
  some { dictionary }

def toJson (settings : Settings) : Json :=
  .ofMembers [("dictionary", settings.dictionary.toJson)]

end Settings

end Lexicon
