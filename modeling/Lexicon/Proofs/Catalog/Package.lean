import Lexicon.Catalog
import Lexicon.Proofs.Bundle.Lookup

/-!
# The package of a catalog

Settings name a package file and a file with its manifest, and a catalog has the bundle of the two if
both files are there and the second one holds a manifest. What the manifest gives as a main dictionary
is the fallback of the catalog.
-/

set_option autoImplicit false

namespace Lexicon

open Storage

namespace Bundle

variable {store : FileStore} {path manifestPath : FilePath} {manifest : Manifest}

/-- The file at a path holds the JSON text of a manifest. -/
def HoldsManifest (store : FileStore) (path : FilePath) (manifest : Manifest) : Prop :=
  ∃ content value, store.file? path = some content ∧ Json.ofBytes? content.bytes = some value ∧
    Manifest.ofJson? value = some manifest

theorem readManifest_eq_ok_iff :
    readManifest store path = .ok manifest ↔ HoldsManifest store path manifest := by
  rw [readManifest]
  constructor
  · intro read
    split at read
    · cases read
    · cases read
    · next location content found =>
      split at read
      · cases read
      · next told =>
        cases read
        obtain ⟨value, parsed, given⟩ := Option.bind_eq_some_iff.1 told
        exact ⟨content, value, FileStore.file?_eq_some_iff.2 ⟨location, found⟩, parsed, given⟩
  · intro ⟨content, value, held, parsed, given⟩
    obtain ⟨location, found⟩ := FileStore.file?_eq_some_iff.1 held
    have told : (Json.ofBytes? content.bytes).bind Manifest.ofJson? = some manifest :=
      Option.bind_eq_some_iff.2 ⟨value, parsed, given⟩
    simp only [found, told]

theorem load_eq_ok_iff {bundle : Bundle} :
    load store path manifestPath = .ok bundle ↔
      path = bundle.path ∧ (∃ content, store.file? path = some content) ∧
        HoldsManifest store manifestPath ⟨bundle.resources⟩ := by
  rw [load, ← readManifest_eq_ok_iff]
  cases readManifest store manifestPath with
  | error cause => simp
  | ok manifest =>
    cases held : store.file? path with
    | none => simp [ofManifest, held]
    | some content =>
      obtain ⟨resources⟩ := manifest
      obtain ⟨place, others⟩ := bundle
      simp [ofManifest, held]

/-- The manifest of a package may be empty, and its members may stand in any order. -/
example : Manifest.ofJson? (.ofMembers []) = some ⟨[]⟩ ∧
    Manifest.ofJson? (.ofMembers [("resources", .array [.ofMembers
      [("offset", .natural 3), ("name", .string "main"), ("length", .natural 2)]])]) =
        some ⟨[⟨"main", 3, 2⟩]⟩ :=
  ⟨rfl, rfl⟩

end Bundle

namespace Catalog

/-- What settings and the files at the time make a catalog. It has a bundle exactly if the settings
name a package, which is a file, and a manifest, which can be read. -/
structure Describes (catalog : Catalog) (built : FileStore) (settings : DictionarySettings) :
    Prop where
  same : catalog.settings = settings
  package : ∀ bundle, catalog.bundle = some bundle ↔
    settings.packagePath = some bundle.path ∧
      (∃ content, built.file? bundle.path = some content) ∧
      ∃ manifestPath, settings.packageManifest = some manifestPath ∧
        Bundle.HoldsManifest built manifestPath ⟨bundle.resources⟩

theorem ofSettings_describes (built : FileStore) (settings : DictionarySettings) :
    (ofSettings built settings).Describes built settings := by
  cases named : settings.packagePath with
  | none => constructor <;> simp [ofSettings, named]
  | some path =>
    cases named' : settings.packageManifest with
    | none => constructor <;> simp [ofSettings, named, named']
    | some manifestPath =>
      constructor
      · simp only [ofSettings, named, named']
      · intro bundle
        have loaded : (Bundle.load built path manifestPath).toOption = some bundle ↔
            Bundle.load built path manifestPath = .ok bundle := by
          cases Bundle.load built path manifestPath <;> simp [Except.toOption]
        simp only [ofSettings, named, named', loaded, Bundle.load_eq_ok_iff, Option.some.injEq]
        constructor
        · intro ⟨same, isFile, told⟩
          exact ⟨same, same ▸ isFile, manifestPath, rfl, told⟩
        · rintro ⟨same, isFile, _, rfl, told⟩
          exact ⟨same, same ▸ isFile, told⟩

/-- What the manifest of the package gives as a main dictionary, with its bytes in the package. -/
def Fallback (catalog : Catalog) (store : FileStore) (locale : Option Locale) (extent : Extent)
    (bytes : List UInt8) : Prop :=
  ∃ (path : FilePath) (manifest : Manifest) (content : Content),
    catalog.bundle = some ⟨path, manifest.resources⟩ ∧
    manifest.GivesMain store path catalog.settings.mainStem locale (some extent) ∧
    store.file? path = some content ∧ bytes = extent.slice content.bytes

section Fallback

variable {catalog : Catalog} {store : FileStore} {locale : Option Locale} {extent : Extent}

theorem embeddedFallback?_eq_some_iff :
    catalog.embeddedFallback? store locale = some extent ↔
      ∃ bytes, catalog.Fallback store locale extent bytes := by
  rw [embeddedFallback?, Option.bind_eq_some_iff]
  constructor
  · intro ⟨⟨path, resources⟩, packed, answer⟩
    have gives : (Manifest.mk resources).GivesMain store path catalog.settings.mainStem locale
        (some extent) := Bundle.mainDictionary?_eq_iff.1 answer
    obtain ⟨name, given⟩ := gives.exists_gives
    obtain ⟨place, _, content, held, _⟩ := given.fitsIn
    exact ⟨_, path, ⟨resources⟩, content, packed, gives, place ▸ held, rfl⟩
  · intro ⟨_, path, manifest, _, packed, gives, _, _⟩
    exact ⟨_, packed, Bundle.mainDictionary?_eq_iff.2 gives⟩

theorem Fallback.read {bytes : List UInt8} (fallback : catalog.Fallback store locale extent bytes) :
    extent.read store = .ok bytes := by
  obtain ⟨path, manifest, content, _, gives, held, rfl⟩ := fallback
  obtain ⟨name, given⟩ := gives.exists_gives
  obtain ⟨rfl, _, content', held', _, within⟩ := given.fitsIn
  rw [held] at held'
  cases held'
  exact Extent.read_of_within _ held within

end Fallback

end Catalog

end Lexicon
