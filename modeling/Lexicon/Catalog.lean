import Lexicon.Bundle
import Lexicon.Settings.Basic

/-!
# Catalogs

Where the dictionaries of a locale are, by the settings: one that the user installed, the packaged
ones in the directory of the locale, and a fallback inside the package. A catalog only looks; it opens
no dictionary and changes nothing.
-/

set_option autoImplicit false

namespace Lexicon

open Storage

/-- What is known about a dictionary by the place where it was found. -/
inductive SourceKind where
  | custom
  | asset
  | embedded
  deriving DecidableEq, Repr

def SourceKind.name : SourceKind → String
  | .custom => "custom"
  | .asset => "asset"
  | .embedded => "embedded"

structure Source where
  kind : SourceKind
  extent : Extent
  deriving DecidableEq, Repr

/-- The dictionaries to be tried for a locale. -/
inductive Resolution where
  /-- The user's own dictionary, which keeps all others out. -/
  | custom (extent : Extent)
  | assets (extents : List Extent)
  deriving DecidableEq, Repr

/-- Settings, with the bundle they name if it could be loaded. -/
structure Catalog where
  settings : DictionarySettings
  bundle : Option Bundle
  deriving DecidableEq, Repr

namespace Catalog

/-- The catalog of settings. A bundle that cannot be loaded counts as absent. -/
def ofSettings (store : FileStore) (settings : DictionarySettings) : Catalog :=
  match settings.packagePath, settings.packageManifest with
  | some path, some manifestPath => ⟨settings, (Bundle.load store path manifestPath).toOption⟩
  | _, _ => ⟨settings, none⟩

def customPath (catalog : Catalog) (locale : Locale) : FilePath :=
  catalog.settings.customRoot.join ⟨catalog.settings.mainFileName locale.tag⟩

def customOverride? (catalog : Catalog) (store : FileStore) (locale : Locale) : Option Extent :=
  Extent.ofFile? store (catalog.customPath locale)

def assetDirectory (catalog : Catalog) (locale : Locale) : FilePath :=
  catalog.settings.assetsRoot.join ⟨locale.tag⟩

/-- The names in a directory that have the extension of dictionaries, in order. -/
def assetNames (catalog : Catalog) (names : List String) : List String :=
  (names.filter fun name => extension? name == some catalog.settings.extension).mergeSort
    fun first second => first ≤ second

/-- The packaged dictionaries of a locale, in the order of their names. -/
def assetSources (catalog : Catalog) (store : FileStore) (locale : Locale) : List Extent :=
  let directory := catalog.assetDirectory locale
  match store.list directory with
  | .error _ => []
  | .ok names =>
    (catalog.assetNames names).filterMap fun name => Extent.ofFile? store (directory.join ⟨name⟩)

def embeddedFallback? (catalog : Catalog) (store : FileStore) (locale : Option Locale) :
    Option Extent :=
  catalog.bundle.bind fun bundle =>
    bundle.mainDictionary? store catalog.settings.mainStem locale

/-- The user's own dictionary if there is one, otherwise the packaged ones. -/
def resolve (catalog : Catalog) (store : FileStore) (locale : Locale) : Resolution :=
  match catalog.customOverride? store locale with
  | some extent => .custom extent
  | none => .assets (catalog.assetSources store locale)

end Catalog

end Lexicon
