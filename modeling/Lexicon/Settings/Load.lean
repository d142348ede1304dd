import Lexicon.Json.Reader
import Lexicon.Settings.Basic
import Lexicon.Settings.EnvFile
import Lexicon.Storage.FileStore

/-!
# Loading settings

Settings come from a JSON file or from the defaults. Three of them can be overridden from outside: a
variable of the environment decides, and where it is not set, the first assignment in the nearest
`.env` file, at or above the working directory. That file is read only after the settings themselves
have been read without fault, and its assignments stay in the environment.
-/

set_option autoImplicit false

namespace Lexicon

open Storage

inductive SettingsError where
  | storage (cause : IoError)
  /-- The text is no JSON or its value is no settings. -/
  | malformed
  deriving DecidableEq, Repr

namespace Storage

/-- A directory and those above it, the nearest first. -/
def ancestors (location : Location) : List Location :=
  (List.range (location.length + 1)).reverse.map location.take

def envPath (directory : Location) : FilePath :=
  ⟨"/" ++ String.intercalate "/" (directory ++ [".env"])⟩

namespace FileStore

/-- Looks for a `.env` file in one directory after the other. A directory of that name is passed over.
A look that fails otherwise than by finding nothing ends the search, as one by a path that is too long
does. -/
def firstEnvFile? (store : FileStore) : List Location → Option Content
  | [] => none
  | directory :: others =>
    match store.find (envPath directory) with
    | .ok (_, .file content) => some content
    | .ok (_, .directory) => store.firstEnvFile? others
    | .error .notFound => store.firstEnvFile? others
    | .error _ => none

/-- The nearest `.env` file at or above the working directory. -/
def envFile? (store : FileStore) : Option Content :=
  store.firstEnvFile? (ancestors store.workingDirectory)

end FileStore

end Storage

/-- The environment after the nearest `.env` file has been read. -/
def Environment.withEnvFile (environment : Environment) (store : FileStore) : Environment :=
  match store.envFile? with
  | none => environment
  | some content => environment.setDefaults (EnvFile.assignments environment content.bytes)

namespace Settings

def dataDirectoryVariable : String := "KBDICT_DATA_DIR"

def packagePathVariable : String := "KBDICT_PACKAGE_PATH"

def packageManifestVariable : String := "KBDICT_PACKAGE_MANIFEST"

/-- The settings with those that the environment overrides. A variable set to the empty text
overrides too. -/
def override (settings : Settings) (environment : Environment) : Settings :=
  let path? := fun name => (environment.get? name).map FilePath.mk
  { settings with
    dictionary := { settings.dictionary with
      dataDirectory := (path? dataDirectoryVariable).getD settings.dictionary.dataDirectory
      packagePath := (path? packagePathVariable).or settings.dictionary.packagePath
      packageManifest := (path? packageManifestVariable).or settings.dictionary.packageManifest } }

/-- The settings with their overrides, and the environment that results. -/
def withEnvironment (settings : Settings) (store : FileStore) (environment : Environment) :
    Settings × Environment :=
  let environment := environment.withEnvFile store
  (settings.override environment, environment)

def fromEnvironment (store : FileStore) (environment : Environment) : Settings × Environment :=
  ({} : Settings).withEnvironment store environment

def readFile (store : FileStore) (path : FilePath) : Except SettingsError Settings :=
  match store.find path with
  | .error cause => .error (.storage cause)
  | .ok (_, .directory) => .error .malformed
  | .ok (_, .file content) =>
    match (Json.ofBytes? content.bytes).bind ofJson? with
    | none => .error .malformed
    | some settings => .ok settings

/-- The settings in a file with their overrides. If the file cannot be read, the environment stays as
it was. -/
def load (store : FileStore) (path : FilePath) (environment : Environment) :
    Except SettingsError Settings × Environment :=
  match readFile store path with
  | .error cause => (.error cause, environment)
  | .ok settings =>
    let (settings, environment) := settings.withEnvironment store environment
    (.ok settings, environment)

end Settings

end Lexicon
