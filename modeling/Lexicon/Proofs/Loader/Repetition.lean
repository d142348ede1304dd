import Lexicon.Proofs.Dictionary.Leaves
import Lexicon.Proofs.Loader.Resolution
import Lexicon.Proofs.Locale.Tag

/-!
# Loading again

A load leaves the files in a state in which the same load finds the same again. What it removed were
corrupt packaged dictionaries, and all of them, so the packaged dictionaries that are left are the
sound ones. A fallback was looked for after the removal already.
-/

set_option autoImplicit false

namespace Lexicon

open Storage

namespace Catalog

variable {catalog : Catalog} {store after : FileStore} {locale : Locale}

theorem IsAsset.isRejected_iff {asset : Asset} (isAsset : catalog.IsAsset store locale asset)
    {location : Location}
    (found : store.find (catalog.assetPath locale asset) = .ok (location, .file asset.content)) :
    catalog.IsRejected store locale location ↔ asset.isSound = false := by
  rw [Asset.isSound_eq_false_iff]
  constructor
  · intro ⟨other, defect, isAsset', corrupt, found'⟩
    rw [isAsset.eq_of_find isAsset' found found']
    exact ⟨defect, corrupt⟩
  · intro ⟨defect, corrupt⟩
    exact ⟨asset, defect, isAsset, corrupt, found⟩

section Cleared

variable (cleared : catalog.Clears store locale after)

include cleared

/-- The packaged dictionaries that are left are the sound ones. -/
theorem Clears.isAsset_iff {asset : Asset} :
    catalog.IsAsset after locale asset ↔
      catalog.IsAsset store locale asset ∧ asset.isSound = true := by
  obtain ⟨gone, rfl, exact⟩ := cleared
  have files := (filesIn_of_isRejected fun location => (exact location).1).areFiles
  constructor
  · intro isAsset
    -- What is found after the removal was found before it at the same place, which is not emptied.
    obtain ⟨root, opened, found⟩ := isAsset.exists_find
    rw [files.find_directory_iff] at opened
    obtain ⟨found, kept⟩ := files.find_eq_ok_iff.1 found
    obtain ⟨_, _, _, stands⟩ := FileStore.find_eq_ok_iff.1 found
    obtain ⟨_, short, named, filled⟩ := Catalog.isAsset_iff.1 isAsset
    have before : catalog.IsAsset store locale asset :=
      Catalog.isAsset_iff.2 ⟨⟨root, opened, stands⟩, short, named, filled⟩
    refine ⟨before, ?_⟩
    rw [← Bool.not_eq_false]
    intro corrupt
    exact kept ((exact _).2 ((before.isRejected_iff found).2 corrupt))
  · intro ⟨isAsset, sound⟩
    obtain ⟨root, opened, found⟩ := isAsset.exists_find
    obtain ⟨_, _, _, stands⟩ := FileStore.find_eq_ok_iff.1 found
    obtain ⟨_, short, named, filled⟩ := Catalog.isAsset_iff.1 isAsset
    refine Catalog.isAsset_iff.2 ⟨files.holds_iff.2 ⟨root, opened, stands, ?_⟩, short, named, filled⟩
    intro removed
    rw [(isAsset.isRejected_iff found).1 ((exact _).1 removed)] at sound
    cases sound

theorem Clears.lists {sound : List Asset} (listed : catalog.Lists store locale sound) :
    catalog.Lists after locale sound where
  ordered := listed.ordered
  exact := by
    intro asset
    rw [cleared.isAsset_iff, ← Asset.isSound_eq_true_iff, listed.exact, and_assoc, and_self,
      Asset.isSound_eq_true_iff]

theorem Clears.again : catalog.Clears after locale after := by
  refine ⟨[], after.withoutAll_nil.symm, ?_⟩
  intro location
  constructor
  · intro member
    cases member
  · intro ⟨asset, defect, isAsset, corrupt, _⟩
    obtain ⟨_, sound⟩ := cleared.isAsset_iff.1 isAsset
    rw [Asset.isSound_eq_false_iff.2 ⟨defect, corrupt⟩] at sound
    cases sound

theorem Clears.alone (alone : ∀ content, ¬ catalog.HasCustom store locale content) :
    ∀ content, ¬ catalog.HasCustom after locale content := by
  obtain ⟨gone, rfl, exact⟩ := cleared
  have files := (filesIn_of_isRejected fun location => (exact location).1).areFiles
  intro content ⟨held, filled⟩
  obtain ⟨location, found⟩ := FileStore.file?_eq_some_iff.1 held
  obtain ⟨before, _⟩ := files.find_eq_ok_iff.1 found
  exact alone content ⟨FileStore.file?_eq_some_iff.2 ⟨location, before⟩, filled⟩

theorem Clears.assetSources_eq {sound : List Asset} (listed : catalog.Lists store locale sound) :
    catalog.assetSources after locale = sound.map (catalog.assetExtent locale) := by
  obtain ⟨assets, ordered, exact, sources⟩ := catalog.assetSources_eq after locale
  have same : assets = sound := by
    refine ordered.eq_of_mem_iff listed.ordered ?_
    intro asset
    rw [exact, cleared.isAsset_iff, listed.exact, Asset.isSound_eq_true_iff]
  rw [sources, same]

end Cleared

theorem Lists.map_assetExtent {sound : List Asset} (listed : catalog.Lists store locale sound) :
    sound.map (catalog.assetExtent locale) =
      (catalog.assetSources store locale).filter fun extent =>
        (Opening.ofExtent store extent (some locale) .main).sound?.isSome := by
  obtain ⟨assets, ordered, exact, sources⟩ := catalog.assetSources_eq store locale
  rw [sources, List.filter_map, listed.unique (lists_filter ordered exact)]
  congr 1
  apply List.filter_congr
  intro asset member
  have read := Extent.read_of_ofFile? ((exact asset).1 member).held
  change asset.isSound =
    (Opening.ofExtent store (catalog.assetExtent locale asset) (some locale) .main).sound?.isSome
  rw [Asset.isSound]
  cases outcome : Region.read asset.content.bytes with
  | ok table => rw [assetExtent, Opening.ofExtent_of_sound read outcome]; rfl
  | error defect => rw [assetExtent, Opening.ofExtent_of_defect read outcome]; rfl

theorem Resolves.again {locale : Option Locale} {members : List Dictionary}
    (resolves : catalog.Resolves store locale members after) :
    catalog.Resolves after locale members after := by
  cases resolves with
  | disabled off => exact .disabled off
  | neutral on found => exact .neutral on found
  | neutral_missing on missing => exact .neutral_missing on missing
  | custom on installed => exact .custom on installed
  | assets on alone listed some_sound cleared =>
    exact .assets on (cleared.alone alone) (cleared.lists listed) some_sound cleared.again
  | fallback on alone listed cleared found sound =>
    exact .fallback on (cleared.alone alone) (cleared.lists listed) cleared.again found sound
  | fallback_missing on alone listed cleared missing =>
    exact .fallback_missing on (cleared.alone alone) (cleared.lists listed) cleared.again missing

theorem Resolves.exists_lists {members : List Dictionary}
    (resolves : catalog.Resolves store (some locale) members after)
    (on : catalog.settings.enabled = true)
    (alone : ∀ content, ¬ catalog.HasCustom store locale content) :
    ∃ sound, catalog.Lists store locale sound ∧ catalog.Clears store locale after ∧
      (sound ≠ [] → members = sound.map fun asset =>
        .ofBytes (catalog.assetExtent locale asset) asset.content.bytes (some locale)) := by
  cases resolves with
  | disabled off =>
    rw [on] at off
    cases off
  | custom _ installed => exact absurd installed (alone _)
  | assets _ _ listed _ cleared => exact ⟨_, listed, cleared, fun _ => rfl⟩
  | fallback _ _ listed cleared _ _ => exact ⟨[], listed, cleared, fun filled => absurd rfl filled⟩
  | fallback_missing _ _ listed cleared _ =>
    exact ⟨[], listed, cleared, fun filled => absurd rfl filled⟩

end Catalog

namespace Loader

/-- A load that is made again finds the same dictionaries and changes nothing more. What is offered
after the first one is what was offered before and could be opened soundly, and these are the members
unless there are none. -/
theorem create_twice (built store : FileStore) (settings : DictionarySettings)
    (locale : Option Locale) :
    ∃ members after,
      ((ofSettings built settings).create locale).Yields store (.ofMembers .main locale members)
        after ∧
      ((ofSettings built settings).create locale).Yields after (.ofMembers .main locale members)
        after ∧
      ∀ chosen, locale = some chosen → settings.enabled = true →
        (Catalog.ofSettings built settings).customOverride? store chosen = none →
        (Catalog.ofSettings built settings).assetSources after chosen =
          ((Catalog.ofSettings built settings).assetSources store chosen).filter
            (fun extent => (Opening.ofExtent store extent locale .main).sound?.isSome) ∧
        ((Catalog.ofSettings built settings).assetSources after chosen ≠ [] →
          (Dictionary.leavesOfEach members).map Volume.extent =
            (Catalog.ofSettings built settings).assetSources after chosen) := by
  rw [ofSettings_eq_ofCatalog]
  obtain ⟨members, after, resolves⟩ := exists_resolves (.ofSettings built settings) store locale
  refine ⟨members, after, create_of_resolves _ store resolves,
    create_of_resolves _ after resolves.again, ?_⟩
  intro chosen asked enabled none_installed
  subst asked
  have on : (Catalog.ofSettings built settings).settings.enabled = true := by
    rw [settings_ofSettings]
    exact enabled
  have alone := (customOverride?_eq_none_iff _ store).1 none_installed
  obtain ⟨sound, listed, cleared, kept⟩ := resolves.exists_lists on alone
  rw [cleared.assetSources_eq listed]
  refine ⟨listed.map_assetExtent, ?_⟩
  intro filled
  rw [kept (List.map_eq_nil_iff.not.1 filled), Dictionary.leavesOfEach_eq, List.flatMap_map,
    List.map_flatMap, List.map_eq_flatMap]
  simp only [Dictionary.ofBytes, Dictionary.leaves_volume, List.map_singleton]

theorem create_twice_twoLocales :
    (Catalog.ofSettings twoLocales {}).customOverride? twoLocales .english = none ∧
      (Catalog.ofSettings twoLocales {}).assetSources twoLocales .english =
        [⟨⟨"data/dicts/en/a.dict"⟩, 0, 1, true⟩, ⟨⟨"data/dicts/en/b.dict"⟩, 0, 16, true⟩] ∧
      ∃ members after,
        ((ofSettings twoLocales {}).create (some .english)).Yields twoLocales
          (.ofMembers .main (some .english) members) after ∧
        ((ofSettings twoLocales {}).create (some .english)).Yields after
          (.ofMembers .main (some .english) members) after ∧
        (Catalog.ofSettings twoLocales {}).assetSources after .english =
          [⟨⟨"data/dicts/en/b.dict"⟩, 0, 16, true⟩] ∧
        (Dictionary.leavesOfEach members).map Volume.extent =
          [⟨⟨"data/dicts/en/b.dict"⟩, 0, 16, true⟩] := by
  have alone : (Catalog.ofSettings twoLocales {}).customOverride? twoLocales .english = none := by
    rfl
  have listed : twoLocales.list ((Catalog.ofSettings twoLocales {}).assetDirectory .english) =
      .ok ["a.dict", "b.dict"] := by
    rfl
  have names : (Catalog.ofSettings twoLocales {}).assetNames ["a.dict", "b.dict"] =
      ["a.dict", "b.dict"] :=
    List.mergeSort_of_pairwise (by decide)
  have sources : (Catalog.ofSettings twoLocales {}).assetSources twoLocales .english =
      [⟨⟨"data/dicts/en/a.dict"⟩, 0, 1, true⟩, ⟨⟨"data/dicts/en/b.dict"⟩, 0, 16, true⟩] := by
    rw [Catalog.assetSources_of_list listed, names]
    rfl
  obtain ⟨members, after, loaded, again, offered⟩ :=
    create_twice twoLocales twoLocales {} (some .english)
  obtain ⟨openable, kept⟩ := offered .english rfl rfl alone
  have left : (Catalog.ofSettings twoLocales {}).assetSources after .english =
      [⟨⟨"data/dicts/en/b.dict"⟩, 0, 16, true⟩] := by
    rw [openable, sources]
    rfl
  rw [left] at kept
  exact ⟨alone, sources, members, after, loaded, again, left, kept (List.cons_ne_nil _ _)⟩

end Loader

end Lexicon
