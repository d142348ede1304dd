import Lexicon.Bundle
import Lexicon.Proofs.Locale.Tag
import Lexicon.Proofs.Storage.Extent
import Lexicon.Proofs.Text.Casing
import Lexicon.Proofs.Volume.Reopening
import Lexicon.Storage.Quarantine

/-!
# Lookups in packages

What a package has under a name. The last entry of its manifest with that name, in any case, decides,
and whether its region is given out depends on the package file as it is then: entries before it never
stand in for it. A main dictionary of a locale with a region is looked up under both parts of the locale
first, and under the language alone when this gives nothing.
-/

set_option autoImplicit false

namespace Lexicon

open Storage Text

/-! ## What a name stands for -/

/-- The region of an entry in a package file. -/
def Resource.extent (resource : Resource) (path : FilePath) : Extent :=
  ⟨path, resource.offset, resource.length, false⟩

/-- An extent is not empty and lies in the file that its path leads to. -/
def Storage.Extent.FitsIn (extent : Extent) (store : FileStore) : Prop :=
  ∃ content, store.file? extent.path = some content ∧ 0 < extent.length.toNat ∧
    extent.offset.toNat + extent.length.toNat ≤ content.bytes.length

namespace Manifest

/-- The last of the entries with a name, in any case. -/
def Decides (manifest : Manifest) (name : String) (resource : Resource) : Prop :=
  ∃ before after, manifest.resources = before ++ resource :: after ∧
    SameName resource.name name ∧ ∀ other ∈ after, ¬ SameName other.name name

/-- What a package with the manifest gives for a name. -/
inductive Gives (manifest : Manifest) (store : FileStore) (path : FilePath) (name : String) :
    Option Extent → Prop where
  | region {resource : Resource} : manifest.Decides name resource →
      (resource.extent path).FitsIn store → Gives manifest store path name (resource.extent path)
  | misfit {resource : Resource} : manifest.Decides name resource →
      ¬ (resource.extent path).FitsIn store → Gives manifest store path name none
  | unlisted : (∀ resource ∈ manifest.resources, ¬ SameName resource.name name) →
      Gives manifest store path name none

/-- What a package with the manifest gives as a main dictionary. -/
inductive GivesMain (manifest : Manifest) (store : FileStore) (path : FilePath) (stem : String) :
    Option Locale → Option Extent → Prop where
  | neutral {found : Option Extent} :
      manifest.Gives store path stem found → GivesMain manifest store path stem none found
  | general {locale : Locale} {found : Option Extent} : locale.region = none →
      manifest.Gives store path (stem ++ "_" ++ locale.language) found →
      GivesMain manifest store path stem (some locale) found
  | regional {locale : Locale} {code : RegionCode} {extent : Extent} : locale.region = some code →
      manifest.Gives store path (stem ++ "_" ++ locale.language ++ "_" ++ code.val) (some extent) →
      GivesMain manifest store path stem (some locale) (some extent)
  | fallback {locale : Locale} {code : RegionCode} {found : Option Extent} :
      locale.region = some code →
      manifest.Gives store path (stem ++ "_" ++ locale.language ++ "_" ++ code.val) none →
      manifest.Gives store path (stem ++ "_" ++ locale.language) found →
      GivesMain manifest store path stem (some locale) found

end Manifest

/-! ## Extents of packages -/

namespace Storage.Extent

theorem ofRegion?_of_fitsIn {store : FileStore} {path : FilePath} {offset length : UInt64}
    (fits : FitsIn ⟨path, offset, length, false⟩ store) :
    ofRegion? store path offset length = some ⟨path, offset, length, false⟩ := by
  obtain ⟨content, held, filled, within⟩ := fits
  exact ofRegion?_eq_some_iff.2 ⟨content, held, filled, within, rfl⟩

theorem ofRegion?_of_not_fitsIn {store : FileStore} {path : FilePath} {offset length : UInt64}
    (outside : ¬ FitsIn ⟨path, offset, length, false⟩ store) :
    ofRegion? store path offset length = none := by
  rw [Option.eq_none_iff_forall_ne_some]
  intro extent taken
  obtain ⟨content, held, filled, within, _⟩ := ofRegion?_eq_some_iff.1 taken
  exact outside ⟨content, held, filled, within⟩

theorem quarantine_of_part {extent : Extent} (part : extent.wholeFile = false) (store : FileStore) :
    extent.quarantine store = (.notDeletable, store) := by
  simp [quarantine, part]

end Storage.Extent

/-! ## Lookups -/

namespace Bundle

section Lookup

variable {manifest : Manifest} {store : FileStore} {path : FilePath} {name : String}

theorem resource?_eq_some_iff {resource : Resource} :
    resource? ⟨path, manifest.resources⟩ name = some resource ↔ manifest.Decides name resource := by
  rw [resource?, List.find?_eq_some_iff_append, beq_iff_eq, lowered_eq_lowered_iff]
  constructor
  · intro ⟨same, after, before, listed, others⟩
    refine ⟨before.reverse, after.reverse, ?_, same, ?_⟩
    · rw [← List.reverse_reverse manifest.resources, listed]
      simp
    · intro other member
      simpa [lowered_eq_lowered_iff] using others other (List.mem_reverse.1 member)
  · intro ⟨before, after, listed, same, others⟩
    refine ⟨same, after.reverse, before.reverse, ?_, ?_⟩
    · simp [listed]
    · intro other member
      simpa [lowered_eq_lowered_iff] using others other (List.mem_reverse.1 member)

theorem resource?_eq_none_iff :
    resource? ⟨path, manifest.resources⟩ name = none ↔
      ∀ resource ∈ manifest.resources, ¬ SameName resource.name name := by
  simp [resource?, lowered_eq_lowered_iff]

theorem gives_locate? :
    manifest.Gives store path name (locate? ⟨path, manifest.resources⟩ store name) := by
  rw [locate?]
  cases listed : resource? ⟨path, manifest.resources⟩ name with
  | none => exact .unlisted (resource?_eq_none_iff.1 listed)
  | some resource =>
    have decides := resource?_eq_some_iff.1 listed
    by_cases fits : (resource.extent path).FitsIn store
    · dsimp only
      rw [Extent.ofRegion?_of_fitsIn fits]
      exact .region decides fits
    · dsimp only
      rw [Extent.ofRegion?_of_not_fitsIn fits]
      exact .misfit decides fits

theorem locate?_eq_iff {found : Option Extent} :
    locate? ⟨path, manifest.resources⟩ store name = found ↔
      manifest.Gives store path name found := by
  constructor
  · rintro rfl
    exact gives_locate?
  · intro gives
    cases gives with
    | region decides fits =>
      rw [locate?, resource?_eq_some_iff.2 decides]
      exact Extent.ofRegion?_of_fitsIn fits
    | misfit decides outside =>
      rw [locate?, resource?_eq_some_iff.2 decides]
      exact Extent.ofRegion?_of_not_fitsIn outside
    | unlisted others => rw [locate?, resource?_eq_none_iff.2 others]

theorem locate?_congr {bundle : Bundle} {other : String} (same : SameName name other) :
    bundle.locate? store name = bundle.locate? store other := by
  rw [locate?, locate?, resource?, resource?, lowered_eq_lowered_iff.2 same]

theorem mainDictionary?_neutral (bundle : Bundle) (store : FileStore) (stem : String) :
    bundle.mainDictionary? store stem none = bundle.locate? store stem := by
  rw [mainDictionary?, mainNames]
  simp

theorem mainDictionary?_general (bundle : Bundle) (store : FileStore) (stem : String)
    {locale : Locale} (bare : locale.region = none) :
    bundle.mainDictionary? store stem (some locale) =
      bundle.locate? store (stem ++ "_" ++ locale.language) := by
  rw [mainDictionary?, mainNames, Locale.suffixes, bare]
  simp

/-- The region is written in small letters in the names of resources, which makes no difference. -/
theorem mainDictionary?_regional (bundle : Bundle) (store : FileStore) (stem : String)
    {locale : Locale} {code : RegionCode} (given : locale.region = some code) :
    bundle.mainDictionary? store stem (some locale) =
      (bundle.locate? store (stem ++ "_" ++ locale.language ++ "_" ++ code.val)).or
        (bundle.locate? store (stem ++ "_" ++ locale.language)) := by
  have same : SameName (stem ++ "_" ++ locale.language ++ "_" ++ lowered code.val)
      (stem ++ "_" ++ locale.language ++ "_" ++ code.val) :=
    (SameName.refl _).append (sameName_lowered code.val)
  rw [← locate?_congr same, mainDictionary?, mainNames, Locale.suffixes, given]
  simp only [List.map_cons, List.map_nil, List.findSome?_cons, List.findSome?_nil,
    ← String.append_assoc]
  cases bundle.locate? store (stem ++ "_" ++ locale.language ++ "_" ++ lowered code.val) <;>
    cases bundle.locate? store (stem ++ "_" ++ locale.language) <;> rfl

theorem mainDictionary?_eq_iff {stem : String} {locale : Option Locale} {found : Option Extent} :
    mainDictionary? ⟨path, manifest.resources⟩ store stem locale = found ↔
      manifest.GivesMain store path stem locale found := by
  constructor
  · rintro rfl
    cases locale with
    | none =>
      rw [mainDictionary?_neutral]
      exact .neutral gives_locate?
    | some locale =>
      cases region : locale.region with
      | none =>
        rw [mainDictionary?_general _ _ _ region]
        exact .general region gives_locate?
      | some code =>
        rw [mainDictionary?_regional _ _ _ region]
        cases first : locate? ⟨path, manifest.resources⟩ store
            (stem ++ "_" ++ locale.language ++ "_" ++ code.val) with
        | none => exact .fallback region (locate?_eq_iff.1 first) gives_locate?
        | some extent => exact .regional region (locate?_eq_iff.1 first)
  · intro gives
    cases gives with
    | neutral gives =>
      rw [mainDictionary?_neutral, locate?_eq_iff.2 gives]
    | general bare gives =>
      rw [mainDictionary?_general _ _ _ bare, locate?_eq_iff.2 gives]
    | regional given gives =>
      rw [mainDictionary?_regional _ _ _ given, locate?_eq_iff.2 gives, Option.some_or]
    | fallback given missing gives =>
      rw [mainDictionary?_regional _ _ _ given, locate?_eq_iff.2 missing, Option.none_or,
        locate?_eq_iff.2 gives]

/-- Of a store, a lookup sees the package file only. -/
theorem givesMain_congr {other : FileStore} (same : store.file? path = other.file? path)
    {stem : String} {locale : Option Locale} {found : Option Extent} :
    manifest.GivesMain store path stem locale found ↔
      manifest.GivesMain other path stem locale found := by
  have located : locate? ⟨path, manifest.resources⟩ store =
      locate? ⟨path, manifest.resources⟩ other := by
    funext name
    simp only [locate?, Extent.ofRegion?, same]
  rw [← mainDictionary?_eq_iff, ← mainDictionary?_eq_iff, mainDictionary?, mainDictionary?, located]

end Lookup

end Bundle

theorem Manifest.Gives.fitsIn {manifest : Manifest} {store : FileStore} {path : FilePath}
    {name : String} {extent : Extent} (gives : manifest.Gives store path name (some extent)) :
    extent.path = path ∧ extent.wholeFile = false ∧ extent.FitsIn store := by
  cases gives with
  | region _ fits => exact ⟨rfl, rfl, fits⟩

theorem Manifest.GivesMain.exists_gives {manifest : Manifest} {store : FileStore} {path : FilePath}
    {stem : String} {locale : Option Locale} {found : Option Extent}
    (gives : manifest.GivesMain store path stem locale found) :
    ∃ name, manifest.Gives store path name found := by
  cases gives with
  | neutral gives => exact ⟨_, gives⟩
  | general _ gives => exact ⟨_, gives⟩
  | regional _ gives => exact ⟨_, gives⟩
  | fallback _ _ gives => exact ⟨_, gives⟩

namespace Bundle

/-- A lookup of either kind gives out an extent. -/
def HandsOut (bundle : Bundle) (store : FileStore) (extent : Extent) : Prop :=
  (∃ name, bundle.locate? store name = some extent) ∨
    ∃ stem locale, bundle.mainDictionary? store stem locale = some extent

/-- A package is looked up in its manifest and in the file that it is at the time, whatever it was
when the bundle was made. What is given out lies in that file and is never deleted. -/
theorem lookup_exact (manifest : Manifest) (store : FileStore) (path : FilePath)
    (isFile : store.file? path ≠ none) :
    ∃ bundle, ofManifest store path manifest = .ok bundle ∧ ∀ later : FileStore,
      (∀ name found, bundle.locate? later name = found ↔ manifest.Gives later path name found) ∧
      (∀ stem locale found, bundle.mainDictionary? later stem locale = found ↔
        manifest.GivesMain later path stem locale found) ∧
      ∀ extent, bundle.HandsOut later extent →
        extent.path = path ∧ extent.FitsIn later ∧
          ∀ any : FileStore, extent.quarantine any = (.notDeletable, any) := by
  obtain ⟨content, held⟩ := Option.ne_none_iff_exists'.1 isFile
  refine ⟨⟨path, manifest.resources⟩, by rw [ofManifest, held], ?_⟩
  intro later
  refine ⟨fun name found => locate?_eq_iff, fun stem locale found => mainDictionary?_eq_iff, ?_⟩
  intro extent handed
  have given : ∃ name, manifest.Gives later path name (some extent) := by
    rcases handed with ⟨name, located⟩ | ⟨stem, locale, main⟩
    · exact ⟨name, locate?_eq_iff.1 located⟩
    · exact (mainDictionary?_eq_iff.1 main).exists_gives
  obtain ⟨name, gives⟩ := given
  obtain ⟨place, part, fits⟩ := gives.fitsIn
  exact ⟨place, fits, fun any => Extent.quarantine_of_part part any⟩

/-- One name is there twice, and its last entry needs five bytes. -/
def repeated : Manifest :=
  ⟨[⟨"main_en", 0, 2⟩, ⟨"main_EN_us", 0, 1⟩, ⟨"MAIN_en_US", 3, 2⟩]⟩

theorem lookup_exact_packaged :
    ∃ bundle, ofManifest (Volume.packaged ⟨[1, 2], by decide⟩) ⟨"app.pkg"⟩ repeated = .ok bundle ∧
      bundle.locate? (Volume.packaged ⟨[1, 2, 3, 4], by decide⟩) "main_en_us" = none ∧
      bundle.mainDictionary? (Volume.packaged ⟨[1, 2, 3, 4], by decide⟩) "main" (some .american) =
        some ⟨⟨"app.pkg"⟩, 0, 2, false⟩ ∧
      bundle.mainDictionary? (Volume.packaged ⟨[1, 2, 3, 4, 5], by decide⟩) "main"
        (some .american) = some ⟨⟨"app.pkg"⟩, 3, 2, false⟩ := by
  have regional : repeated.Decides "main_en_US" ⟨"MAIN_en_US", 3, 2⟩ :=
    ⟨[_, _], [], rfl, by decide, by simp⟩
  have regional' : repeated.Decides "main_en_us" ⟨"MAIN_en_US", 3, 2⟩ :=
    ⟨[_, _], [], rfl, by decide, by simp⟩
  have general : repeated.Decides "main_en" ⟨"main_en", 0, 2⟩ :=
    ⟨[], [_, _], rfl, by decide, by decide⟩
  have outside : ¬ (Resource.extent ⟨"MAIN_en_US", 3, 2⟩ ⟨"app.pkg"⟩).FitsIn
      (Volume.packaged ⟨[1, 2, 3, 4], by decide⟩) := by
    rintro ⟨content, held, _, within⟩
    cases held
    exact absurd within (by decide)
  obtain ⟨bundle, made, looked⟩ :=
    lookup_exact repeated (Volume.packaged ⟨[1, 2], by decide⟩) ⟨"app.pkg"⟩ (Option.some_ne_none _)
  obtain ⟨locates, mains, _⟩ := looked (Volume.packaged ⟨[1, 2, 3, 4], by decide⟩)
  obtain ⟨_, mains', _⟩ := looked (Volume.packaged ⟨[1, 2, 3, 4, 5], by decide⟩)
  refine ⟨bundle, made, ?_, ?_, ?_⟩
  · exact (locates _ _).2 (.misfit regional' outside)
  · exact (mains _ _ _).2 (.fallback rfl (.misfit regional outside)
      (.region general ⟨_, rfl, by decide, by decide⟩))
  · exact (mains' _ _ _).2 (.regional rfl (.region regional ⟨_, rfl, by decide, by decide⟩))

end Bundle

end Lexicon
