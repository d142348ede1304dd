import Lexicon.Proofs.Loader.Resolution
import Lexicon.Proofs.Locale.Tag

/-!
# Loads of different locales

A load for a locale depends on three places: where a dictionary of the user's own would be, what
stands in the directory of the locale, and the package. It removes only files that stand right in that
directory. So, unless one of the other places is in the directory of another locale, loads for
different locales do not see each other, and can be made in any order.
-/

set_option autoImplicit false

namespace Lexicon

open Storage

namespace Catalog

/-- Stores that, seen from one working directory, show the same at the places on which a load for a
locale depends. -/
structure Agrees (catalog : Catalog) (locale : Locale) (left right : FileStore) : Prop where
  sameStart : left.workingDirectory = right.workingDirectory
  custom : left.file? (catalog.customPath locale) = right.file? (catalog.customPath locale)
  assets : ∀ name node, left.Holds (catalog.assetDirectory locale) name node ↔
    right.Holds (catalog.assetDirectory locale) name node
  package : ∀ bundle, catalog.bundle = some bundle →
    left.file? bundle.path = right.file? bundle.path

section Agreement

variable {catalog : Catalog} {locale : Locale} {left right : FileStore}

theorem Agrees.refl (catalog : Catalog) (locale : Locale) (store : FileStore) :
    catalog.Agrees locale store store :=
  ⟨rfl, rfl, fun _ _ => Iff.rfl, fun _ _ => rfl⟩

theorem Agrees.symm (agrees : catalog.Agrees locale left right) :
    catalog.Agrees locale right left where
  sameStart := agrees.sameStart.symm
  custom := agrees.custom.symm
  assets := fun name node => (agrees.assets name node).symm
  package := fun bundle packed => (agrees.package bundle packed).symm

theorem Fallback.congr {extent : Extent} {bytes : List UInt8} {locale : Option Locale}
    (same : ∀ bundle, catalog.bundle = some bundle →
      left.file? bundle.path = right.file? bundle.path)
    (found : catalog.Fallback left locale extent bytes) :
    catalog.Fallback right locale extent bytes := by
  obtain ⟨path, manifest, content, packed, gives, held, rfl⟩ := found
  have package : left.file? path = right.file? path := same _ packed
  exact ⟨path, manifest, content, packed, (Bundle.givesMain_congr package).1 gives,
    package ▸ held, rfl⟩

variable (agrees : catalog.Agrees locale left right)

include agrees

theorem Agrees.hasCustom_iff {content : Content} :
    catalog.HasCustom left locale content ↔ catalog.HasCustom right locale content := by
  rw [HasCustom, HasCustom, agrees.custom]

theorem Agrees.isAsset_iff {asset : Asset} :
    catalog.IsAsset left locale asset ↔ catalog.IsAsset right locale asset := by
  rw [Catalog.isAsset_iff, Catalog.isAsset_iff, agrees.assets]

theorem Agrees.isRejected {location : Location}
    (rejected : catalog.IsRejected left locale location) :
    catalog.IsRejected right locale location := by
  obtain ⟨asset, defect, isAsset, corrupt, found⟩ := rejected
  have isAsset' := agrees.isAsset_iff.1 isAsset
  obtain ⟨root, _, found'⟩ := isAsset'.exists_find
  -- The stores may differ all along the way, but without links the path itself fixes the place.
  cases FileStore.find_unique agrees.sameStart found found'
  exact ⟨asset, defect, isAsset', corrupt, found'⟩

theorem Agrees.lists {sound : List Asset} (listed : catalog.Lists left locale sound) :
    catalog.Lists right locale sound where
  ordered := listed.ordered
  exact := by
    intro asset
    rw [listed.exact, agrees.isAsset_iff]

theorem Agrees.exists_gone {after : FileStore} (cleared : catalog.Clears left locale after) :
    ∃ gone, after = left.withoutAll gone ∧ catalog.Clears right locale (right.withoutAll gone) ∧
      ∀ location ∈ gone, catalog.IsRejected left locale location := by
  obtain ⟨gone, same, exact⟩ := cleared
  refine ⟨gone, same, ⟨gone, rfl, ?_⟩, fun location => (exact location).1⟩
  intro location
  rw [exact]
  exact ⟨agrees.isRejected, agrees.symm.isRejected⟩

theorem Agrees.package_withoutAll {gone : List Location}
    (rejected : ∀ location ∈ gone, catalog.IsRejected left locale location) (bundle : Bundle)
    (packed : catalog.bundle = some bundle) :
    (left.withoutAll gone).file? bundle.path = (right.withoutAll gone).file? bundle.path :=
  FileStore.file?_withoutAll_congr agrees.sameStart (filesIn_of_isRejected rejected).areFiles
    (filesIn_of_isRejected fun location member =>
      agrees.isRejected (rejected location member)).areFiles
    (agrees.package bundle packed)

theorem Agrees.resolves {members : List Dictionary} {after : FileStore}
    (resolves : catalog.Resolves left (some locale) members after) :
    ∃ gone, after = left.withoutAll gone ∧
      catalog.Resolves right (some locale) members (right.withoutAll gone) ∧
      ∀ location ∈ gone, catalog.IsRejected left locale location := by
  cases resolves with
  | disabled off =>
    refine ⟨[], left.withoutAll_nil.symm, ?_, List.forall_mem_nil _⟩
    rw [right.withoutAll_nil]
    exact .disabled off
  | custom on installed =>
    refine ⟨[], left.withoutAll_nil.symm, ?_, List.forall_mem_nil _⟩
    rw [right.withoutAll_nil]
    exact .custom on (agrees.hasCustom_iff.1 installed)
  | assets on alone listed some_sound cleared =>
    obtain ⟨gone, rfl, cleared', rejected⟩ := agrees.exists_gone cleared
    simp only [agrees.hasCustom_iff] at alone
    exact ⟨gone, rfl, .assets on alone (agrees.lists listed) some_sound cleared', rejected⟩
  | fallback on alone listed cleared found sound =>
    obtain ⟨gone, rfl, cleared', rejected⟩ := agrees.exists_gone cleared
    simp only [agrees.hasCustom_iff] at alone
    have found' := found.congr (agrees.package_withoutAll rejected)
    exact ⟨gone, rfl, .fallback on alone (agrees.lists listed) cleared' found' sound, rejected⟩
  | fallback_missing on alone listed cleared missing =>
    obtain ⟨gone, rfl, cleared', rejected⟩ := agrees.exists_gone cleared
    simp only [agrees.hasCustom_iff] at alone
    refine ⟨gone, rfl, .fallback_missing on alone (agrees.lists listed) cleared' ?_, rejected⟩
    intro extent bytes found
    refine missing extent bytes (found.congr ?_)
    intro bundle packed
    exact (agrees.package_withoutAll rejected bundle packed).symm

end Agreement

/-! ## Two locales -/

/-- Different locales. In the directory of neither are the package or what the user has installed for
the other. -/
structure Apart (catalog : Catalog) (store : FileStore) (first second : Locale) : Prop where
  different : first ≠ second
  custom : ¬ store.LiesIn (catalog.customPath first) (catalog.assetDirectory second)
  custom' : ¬ store.LiesIn (catalog.customPath second) (catalog.assetDirectory first)
  package : ∀ bundle, catalog.bundle = some bundle →
    ¬ store.LiesIn bundle.path (catalog.assetDirectory first)
  package' : ∀ bundle, catalog.bundle = some bundle →
    ¬ store.LiesIn bundle.path (catalog.assetDirectory second)

section Apart

variable {catalog : Catalog} {store : FileStore} {first second : Locale}

theorem Apart.symm (apart : catalog.Apart store first second) :
    catalog.Apart store second first :=
  ⟨apart.different.symm, apart.custom', apart.custom, apart.package', apart.package⟩

/-- What a load for one locale removes changes nothing for the other. -/
theorem Apart.agrees (apart : catalog.Apart store first second) {gone : List Location}
    (files : store.FilesIn (catalog.assetDirectory first) gone) :
    catalog.Agrees second store (store.withoutAll gone) where
  sameStart := rfl
  custom := (files.file?_withoutAll apart.custom').symm
  package := fun bundle packed => (files.file?_withoutAll (apart.package bundle packed)).symm
  assets := by
    intro name node
    rw [files.areFiles.holds_iff]
    constructor
    · intro ⟨root, opened, held⟩
      refine ⟨root, opened, held, ?_⟩
      intro removed
      obtain ⟨root', name', _, opened', same, _⟩ := files _ removed
      obtain ⟨rfl, _⟩ := List.append_inj' same rfl
      exact apart.different (eq_of_assetDirectory opened' opened)
    · intro ⟨root, opened, held, _⟩
      exact ⟨root, opened, held⟩

end Apart

end Catalog

namespace Loader

section Catalogs

variable (catalog : Catalog)

theorem create_of_agrees {locale : Locale} {left right : FileStore}
    (agrees : catalog.Agrees locale left right) :
    ∃ members gone,
      ((ofCatalog catalog).create (some locale)).Yields left
        (.ofMembers .main (some locale) members) (left.withoutAll gone) ∧
      ((ofCatalog catalog).create (some locale)).Yields right
        (.ofMembers .main (some locale) members) (right.withoutAll gone) ∧
      left.FilesIn (catalog.assetDirectory locale) gone ∧
      right.FilesIn (catalog.assetDirectory locale) gone := by
  obtain ⟨members, after, resolves⟩ := exists_resolves catalog left (some locale)
  obtain ⟨gone, rfl, resolves', rejected⟩ := agrees.resolves resolves
  exact ⟨members, gone, create_of_resolves catalog left resolves,
    create_of_resolves catalog right resolves', Catalog.filesIn_of_isRejected rejected,
    Catalog.filesIn_of_isRejected fun location member =>
      agrees.isRejected (rejected location member)⟩

theorem create_of_apart {store : FileStore} {first second : Locale}
    (apart : catalog.Apart store first second) :
    ∃ members others middle middle' last,
      ((ofCatalog catalog).create (some first)).Yields store
        (.ofMembers .main (some first) members) middle ∧
      ((ofCatalog catalog).create (some second)).Yields middle
        (.ofMembers .main (some second) others) last ∧
      ((ofCatalog catalog).create (some second)).Yields store
        (.ofMembers .main (some second) others) middle' ∧
      ((ofCatalog catalog).create (some first)).Yields middle'
        (.ofMembers .main (some first) members) last := by
  obtain ⟨members, gone, loaded, _, files, _⟩ :=
    create_of_agrees catalog (.refl catalog first store)
  obtain ⟨others, gone', loaded', after, files', _⟩ :=
    create_of_agrees catalog (apart.agrees files)
  -- Seen from the store before both loads, the last one is a load of the first locale again.
  obtain ⟨again, removed, reloaded, after', _, _⟩ :=
    create_of_agrees catalog (apart.symm.agrees files')
  obtain ⟨same, sameStore⟩ := reloaded.unique loaded
  rw [same, store.withoutAll_comm, sameStore] at after'
  exact ⟨members, others, _, _, _, loaded, after, loaded', after'⟩

end Catalogs

/-- A load for a locale does the same in stores that agree on the places it depends on, and removes
files right in the directory of the locale only. Loads for two locales that are apart can be made in
either order. -/
theorem create_independent (built : FileStore) (settings : DictionarySettings) :
    (∀ locale left right, (Catalog.ofSettings built settings).Agrees locale left right →
      ∃ members gone,
        ((ofSettings built settings).create (some locale)).Yields left
          (.ofMembers .main (some locale) members) (left.withoutAll gone) ∧
        ((ofSettings built settings).create (some locale)).Yields right
          (.ofMembers .main (some locale) members) (right.withoutAll gone) ∧
        left.FilesIn ((Catalog.ofSettings built settings).assetDirectory locale) gone ∧
        right.FilesIn ((Catalog.ofSettings built settings).assetDirectory locale) gone) ∧
    (∀ store first second, (Catalog.ofSettings built settings).Apart store first second →
      ∃ members others middle middle' last,
        ((ofSettings built settings).create (some first)).Yields store
          (.ofMembers .main (some first) members) middle ∧
        ((ofSettings built settings).create (some second)).Yields middle
          (.ofMembers .main (some second) others) last ∧
        ((ofSettings built settings).create (some second)).Yields store
          (.ofMembers .main (some second) others) middle' ∧
        ((ofSettings built settings).create (some first)).Yields middle'
          (.ofMembers .main (some first) members) last) := by
  rw [ofSettings_eq_ofCatalog]
  refine ⟨?_, ?_⟩
  · intro locale left right agrees
    exact create_of_agrees _ agrees
  · intro store first second apart
    exact create_of_apart _ apart

theorem create_independent_twoLocales :
    (Catalog.ofSettings twoLocales {}).Apart twoLocales .english .american ∧
      (Catalog.ofSettings twoLocales {}).Agrees .american twoLocales
        (twoLocales.withoutAll [["data", "dicts", "en", "a.dict"]]) ∧
      (∃ members gone,
        ((ofSettings twoLocales {}).create (some .american)).Yields twoLocales
          (.ofMembers .main (some .american) members) (twoLocales.withoutAll gone) ∧
        ((ofSettings twoLocales {}).create (some .american)).Yields
          (twoLocales.withoutAll [["data", "dicts", "en", "a.dict"]])
          (.ofMembers .main (some .american) members)
          ((twoLocales.withoutAll [["data", "dicts", "en", "a.dict"]]).withoutAll gone)) ∧
      ∃ members others middle middle' last,
        ((ofSettings twoLocales {}).create (some .english)).Yields twoLocales
          (.ofMembers .main (some .english) members) middle ∧
        ((ofSettings twoLocales {}).create (some .american)).Yields middle
          (.ofMembers .main (some .american) others) last ∧
        ((ofSettings twoLocales {}).create (some .american)).Yields twoLocales
          (.ofMembers .main (some .american) others) middle' ∧
        ((ofSettings twoLocales {}).create (some .english)).Yields middle'
          (.ofMembers .main (some .english) members) last := by
  have absent : twoLocales.find ((Catalog.ofSettings twoLocales {}).customPath .english) =
      .error .notFound := by
    rfl
  have absent' : twoLocales.find ((Catalog.ofSettings twoLocales {}).customPath .american) =
      .error .notFound := by
    rfl
  have apart : (Catalog.ofSettings twoLocales {}).Apart twoLocales .english .american := by
    refine ⟨by decide, ?_, ?_, ?_, ?_⟩
    · intro ⟨_, _, _, _, found⟩
      rw [absent] at found
      cases found
    · intro ⟨_, _, _, _, found⟩
      rw [absent'] at found
      cases found
    · intro bundle packed
      cases packed
    · intro bundle packed
      cases packed
  have files : twoLocales.FilesIn ((Catalog.ofSettings twoLocales {}).assetDirectory .english)
      [["data", "dicts", "en", "a.dict"]] := by
    intro location member
    rw [List.mem_singleton.1 member]
    exact ⟨["data", "dicts", "en"], "a.dict", ⟨[0], by decide⟩, by rfl, rfl, by rfl⟩
  obtain ⟨alike, either⟩ := create_independent twoLocales {}
  obtain ⟨members, gone, loaded, loaded', _, _⟩ := alike .american _ _ (apart.agrees files)
  exact ⟨apart, apart.agrees files, ⟨members, gone, loaded, loaded'⟩,
    either twoLocales .english .american apart⟩

end Loader

end Lexicon
