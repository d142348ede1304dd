import Lexicon.Proofs.Catalog.Enumeration
import Lexicon.Proofs.Catalog.Package
import Lexicon.Proofs.Loader.Yields

/-!
# What is loaded from a catalog

The main dictionary of a locale, described by the files that are there before the load, and by nothing
that the load does on its way. The packaged dictionaries are opened one after the other, and corrupt
ones are removed in between; since they stand at different places, no removal is seen by a later
opening. So what is kept is a selection from the files at the beginning, and what is gone at the end is
another.
-/

set_option autoImplicit false

namespace Lexicon

open Storage

/-- The dictionary that the bytes of an extent make up, sound or not. -/
def Dictionary.ofBytes (extent : Extent) (bytes : List UInt8) (locale : Option Locale) :
    Dictionary :=
  .volume ⟨extent, locale, .main, Region.read bytes⟩

namespace Catalog

/-- Files that are exactly the sound ones among the packaged dictionaries of a locale, in order. -/
structure Lists (catalog : Catalog) (store : FileStore) (locale : Locale) (sound : List Asset) :
    Prop where
  ordered : InByteOrder sound
  exact : ∀ asset, asset ∈ sound ↔
    catalog.IsAsset store locale asset ∧ ∃ table, Region.read asset.content.bytes = .ok table

/-- A store that lacks exactly the corrupt ones among the packaged dictionaries of a locale. -/
def Clears (catalog : Catalog) (store : FileStore) (locale : Locale) (after : FileStore) : Prop :=
  ∃ gone, after = store.withoutAll gone ∧
    ∀ location, location ∈ gone ↔
      ∃ asset defect, catalog.IsAsset store locale asset ∧
        Region.read asset.content.bytes = .error defect ∧
        store.find (catalog.assetPath locale asset) = .ok (location, .file asset.content)

/-- There is a file that holds something where a user's own dictionary would be. -/
def HasCustom (catalog : Catalog) (store : FileStore) (locale : Locale) (content : Content) :
    Prop :=
  store.file? (catalog.customPath locale) = some content ∧ content.bytes ≠ []

/-- The members of the main dictionary of a locale and the files after they were loaded. -/
inductive Resolves (catalog : Catalog) (store : FileStore) :
    Option Locale → List Dictionary → FileStore → Prop
  /-- Nothing is loaded where loading is disabled. -/
  | disabled {locale : Option Locale} (off : catalog.settings.enabled = false) :
      Resolves catalog store locale [] store
  /-- Without a locale the fallback is taken as it is. -/
  | neutral (on : catalog.settings.enabled = true) {extent : Extent} {bytes : List UInt8}
      (found : catalog.Fallback store none extent bytes) :
      Resolves catalog store none [.ofBytes extent bytes none] store
  | neutral_missing (on : catalog.settings.enabled = true)
      (missing : ∀ extent bytes, ¬ catalog.Fallback store none extent bytes) :
      Resolves catalog store none [] store
  /-- A dictionary of the user's own is taken as it is and stands alone. -/
  | custom (on : catalog.settings.enabled = true) {locale : Locale} {content : Content}
      (installed : catalog.HasCustom store locale content) :
      Resolves catalog store (some locale)
        [.ofBytes ⟨catalog.customPath locale, 0, content.size, true⟩ content.bytes (some locale)]
        store
  /-- Otherwise the sound packaged dictionaries are taken, and the corrupt ones are removed. -/
  | assets (on : catalog.settings.enabled = true) {locale : Locale} {sound : List Asset}
      {after : FileStore} (alone : ∀ content, ¬ catalog.HasCustom store locale content)
      (listed : catalog.Lists store locale sound) (some_sound : sound ≠ [])
      (cleared : catalog.Clears store locale after) :
      Resolves catalog store (some locale)
        (sound.map fun asset =>
          .ofBytes (catalog.assetExtent locale asset) asset.content.bytes (some locale))
        after
  /-- Where there are none, the fallback serves if it is sound. It is looked for after the removal. -/
  | fallback (on : catalog.settings.enabled = true) {locale : Locale} {after : FileStore}
      (alone : ∀ content, ¬ catalog.HasCustom store locale content)
      (listed : catalog.Lists store locale []) (cleared : catalog.Clears store locale after)
      {extent : Extent} {bytes : List UInt8}
      (found : catalog.Fallback after (some locale) extent bytes) {table : WordTable}
      (sound : Region.read bytes = .ok table) :
      Resolves catalog store (some locale) [.ofBytes extent bytes (some locale)] after
  | fallback_missing (on : catalog.settings.enabled = true) {locale : Locale} {after : FileStore}
      (alone : ∀ content, ¬ catalog.HasCustom store locale content)
      (listed : catalog.Lists store locale []) (cleared : catalog.Clears store locale after)
      (missing : ∀ extent bytes, catalog.Fallback after (some locale) extent bytes →
        ∃ defect, Region.read bytes = .error defect) :
      Resolves catalog store (some locale) [] after

end Catalog

/-! ## Openings -/

section Openings

variable {store : FileStore} {extent : Extent} {bytes : List UInt8} {locale : Option Locale}

theorem Opening.ofExtent_of_sound (read : extent.read store = .ok bytes) {table : WordTable}
    (sound : Region.read bytes = .ok table) :
    Opening.ofExtent store extent locale .main = .valid (.ofBytes extent bytes locale) := by
  simp only [ofExtent, Volume.ofExtent, read, Volume.defect?, sound, Dictionary.ofBytes]

theorem Opening.ofExtent_of_defect (read : extent.read store = .ok bytes)
    {defect : Region.Defect} (corrupt : Region.read bytes = .error defect) :
    Opening.ofExtent store extent locale .main =
      .invalid (.ofBytes extent bytes locale) defect := by
  simp only [ofExtent, Volume.ofExtent, read, Volume.defect?, corrupt, Dictionary.ofBytes]

theorem Opening.dictionary?_ofExtent (read : extent.read store = .ok bytes) :
    (Opening.ofExtent store extent locale .main).dictionary? =
      some (.ofBytes extent bytes locale) := by
  cases outcome : Region.read bytes with
  | ok table =>
    rw [ofExtent_of_sound read outcome, dictionary?]
  | error defect =>
    rw [ofExtent_of_defect read outcome, dictionary?]

end Openings

/-! ## Packaged dictionaries, one after the other -/

def Asset.isSound (asset : Asset) : Bool :=
  match Region.read asset.content.bytes with
  | .ok _ => true
  | .error _ => false

theorem Asset.isSound_eq_true_iff {asset : Asset} :
    asset.isSound = true ↔ ∃ table, Region.read asset.content.bytes = .ok table := by
  rw [isSound]
  cases Region.read asset.content.bytes <;> simp

theorem Asset.isSound_eq_false_iff {asset : Asset} :
    asset.isSound = false ↔ ∃ defect, Region.read asset.content.bytes = .error defect := by
  rw [isSound]
  cases Region.read asset.content.bytes <;> simp

namespace Catalog

section Standing

variable {catalog : Catalog} {store : FileStore} {locale : Locale}

/-- Files that are in the directory of a locale, each at a place of its own. -/
structure Standing (catalog : Catalog) (store : FileStore) (locale : Locale) (assets : List Asset) :
    Prop where
  held : ∀ asset ∈ assets, store.file? (catalog.assetPath locale asset) = some asset.content
  apart : assets.Pairwise fun first second => ∀ location node node',
    store.find (catalog.assetPath locale first) = .ok (location, node) →
      store.find (catalog.assetPath locale second) ≠ .ok (location, node')

theorem standing_of_isAsset {assets : List Asset} (ordered : InByteOrder assets)
    (all : ∀ asset ∈ assets, catalog.IsAsset store locale asset) :
    catalog.Standing store locale assets where
  held := fun asset member => (all asset member).held
  apart := by
    refine List.Pairwise.imp_of_mem ?_ ordered
    intro first second member member' below location node node' found found'
    rw [(all first member).eq_of_find (all second member') found found'] at below
    exact List.lt_irrefl _ below

theorem Standing.tail {asset : Asset} {rest : List Asset}
    (standing : catalog.Standing store locale (asset :: rest)) :
    catalog.Standing store locale rest where
  held := fun other member => standing.held other (List.mem_cons_of_mem _ member)
  apart := (List.pairwise_cons.1 standing.apart).2

/-- The others stay where they are when one is removed. -/
theorem Standing.quarantine {asset : Asset} {rest : List Asset}
    (standing : catalog.Standing store locale (asset :: rest)) :
    catalog.Standing ((catalog.assetExtent locale asset).quarantine store).2 locale rest := by
  rw [Extent.quarantine_snd]
  have files := store.areFiles_retired [catalog.assetExtent locale asset]
  obtain ⟨apart, _⟩ := List.pairwise_cons.1 standing.apart
  constructor
  · intro other member
    obtain ⟨location, found⟩ := FileStore.file?_eq_some_iff.1 (standing.tail.held other member)
    refine FileStore.file?_eq_some_iff.2 ⟨location, files.find_eq_ok_iff.2 ⟨found, ?_⟩⟩
    intro removed
    obtain ⟨extent, same, _, content, there⟩ := FileStore.mem_retired.1 removed
    rw [List.mem_singleton.1 same] at there
    exact apart other member location _ _ there found
  · refine standing.tail.apart.imp ?_
    intro first second elsewhere location node node' found found'
    exact elsewhere location node node' (files.find_eq_ok_iff.1 found).1
      (files.find_eq_ok_iff.1 found').1

end Standing

section Selections

variable {catalog : Catalog} {store : FileStore} {locale : Locale}

theorem Lists.unique {left right : List Asset} (listed : catalog.Lists store locale left)
    (listed' : catalog.Lists store locale right) : left = right := by
  refine listed.ordered.eq_of_mem_iff listed'.ordered ?_
  intro asset
  rw [listed.exact, listed'.exact]

theorem Clears.unique {left right : FileStore} (cleared : catalog.Clears store locale left)
    (cleared' : catalog.Clears store locale right) : left = right := by
  obtain ⟨gone, rfl, exact⟩ := cleared
  obtain ⟨gone', rfl, exact'⟩ := cleared'
  apply store.withoutAll_congr
  intro location
  rw [exact, exact']

/-- A place where a corrupt one among the packaged dictionaries of a locale stands. -/
def IsRejected (catalog : Catalog) (store : FileStore) (locale : Locale) (location : Location) :
    Prop :=
  ∃ asset defect, catalog.IsAsset store locale asset ∧
    Region.read asset.content.bytes = .error defect ∧
    store.find (catalog.assetPath locale asset) = .ok (location, .file asset.content)

theorem filesIn_of_isRejected {gone : List Location}
    (rejected : ∀ location ∈ gone, catalog.IsRejected store locale location) :
    store.FilesIn (catalog.assetDirectory locale) gone := by
  intro location member
  obtain ⟨asset, _, isAsset, _, found⟩ := rejected location member
  obtain ⟨root, opened, found'⟩ := isAsset.exists_find
  obtain ⟨_, _, _, held⟩ := FileStore.find_eq_ok_iff.1 found
  rw [found] at found'
  cases found'
  exact ⟨root, asset.name, asset.content, opened, rfl, held⟩

variable {assets : List Asset}

theorem lists_filter (ordered : InByteOrder assets)
    (exact : ∀ asset, asset ∈ assets ↔ catalog.IsAsset store locale asset) :
    catalog.Lists store locale (assets.filter Asset.isSound) where
  ordered := ordered.filter _
  exact := by
    intro asset
    rw [List.mem_filter, exact, Asset.isSound_eq_true_iff]

theorem clears_quarantineAll
    (exact : ∀ asset, asset ∈ assets ↔ catalog.IsAsset store locale asset) :
    catalog.Clears store locale (quarantineAll store
      ((assets.filter fun asset => !asset.isSound).map (catalog.assetExtent locale))) := by
  refine ⟨_, quarantineAll_eq store _, ?_⟩
  intro location
  rw [FileStore.mem_retired]
  constructor
  · intro retired
    obtain ⟨extent, member, _, content, found⟩ := retired
    obtain ⟨asset, chosen, rfl⟩ := List.mem_map.1 member
    obtain ⟨offered, corrupt⟩ := List.mem_filter.1 chosen
    have isAsset := (exact asset).1 offered
    obtain ⟨defect, read⟩ := Asset.isSound_eq_false_iff.1 (by simpa using corrupt)
    have held := FileStore.file?_eq_some_iff.2 ⟨location, found⟩
    rw [assetExtent, isAsset.held] at held
    cases held
    exact ⟨asset, defect, isAsset, read, found⟩
  · intro rejected
    obtain ⟨asset, defect, isAsset, read, found⟩ := rejected
    refine ⟨catalog.assetExtent locale asset, List.mem_map.2 ⟨asset, ?_, rfl⟩, rfl, _, found⟩
    rw [List.mem_filter, exact, Bool.not_eq_true']
    exact ⟨isAsset, Asset.isSound_eq_false_iff.2 ⟨defect, read⟩⟩

theorem exists_lists_clears (catalog : Catalog) (store : FileStore) (locale : Locale) :
    ∃ sound after, catalog.Lists store locale sound ∧ catalog.Clears store locale after := by
  obtain ⟨assets, ordered, exact, _⟩ := catalog.assetSources_eq store locale
  exact ⟨_, _, lists_filter ordered exact, clears_quarantineAll exact⟩

section Nothing

variable (nothing : ∀ asset, ¬ catalog.IsAsset store locale asset)

include nothing

theorem lists_nil : catalog.Lists store locale [] where
  ordered := List.Pairwise.nil
  exact := by
    intro asset
    refine iff_of_false List.not_mem_nil ?_
    exact fun held => nothing asset held.1

theorem clears_self : catalog.Clears store locale store := by
  refine ⟨[], store.withoutAll_nil.symm, ?_⟩
  intro location
  refine iff_of_false List.not_mem_nil ?_
  rintro ⟨asset, defect, isAsset, corrupt, found⟩
  exact nothing asset isAsset

end Nothing

end Selections

end Catalog

namespace Loader

open Loading

def ofCatalog (catalog : Catalog) : Loader FileStore where
  supply := .ofCatalog catalog
  enabled := catalog.settings.enabled

theorem settings_ofSettings (built : FileStore) (settings : DictionarySettings) :
    (Catalog.ofSettings built settings).settings = settings := by
  rw [Catalog.ofSettings]
  split <;> rfl

theorem ofSettings_eq_ofCatalog (built : FileStore) (settings : DictionarySettings) :
    ofSettings built settings = ofCatalog (.ofSettings built settings) := by
  rw [ofSettings, ofCatalog, settings_ofSettings]

section Catalogs

variable (catalog : Catalog) (store : FileStore)

theorem yields_openExtent (extent : Extent) (locale : Option Locale) :
    ((ofCatalog catalog).supply.openExtent extent locale .main).Yields store
      (Opening.ofExtent store extent locale .main) store :=
  yields_reading _ store

theorem yields_customOverride (locale : Locale) :
    ((ofCatalog catalog).supply.customOverride locale).Yields store
      (catalog.customOverride? store locale) store :=
  yields_reading _ store

theorem yields_assetSources (locale : Locale) :
    ((ofCatalog catalog).supply.assetSources locale).Yields store
      (catalog.assetSources store locale) store :=
  yields_reading _ store

theorem yields_embeddedFallback (locale : Option Locale) :
    ((ofCatalog catalog).supply.embeddedFallback locale).Yields store
      (catalog.embeddedFallback? store locale) store :=
  yields_reading _ store

/-- What is kept are the sound ones, as they are before the first of the others is removed. -/
theorem acceptAssets_standing (locale : Locale) (assets : List Asset)
    (standing : catalog.Standing store locale assets) :
    ((ofCatalog catalog).acceptAssets locale (assets.map (catalog.assetExtent locale))).Yields store
      ((assets.filter Asset.isSound).map fun asset =>
        .ofBytes (catalog.assetExtent locale asset) asset.content.bytes (some locale))
      (quarantineAll store
        ((assets.filter fun asset => !asset.isSound).map (catalog.assetExtent locale))) := by
  induction assets generalizing store with
  | nil => exact acceptAssets_nil store
  | cons asset rest ih =>
    have read : (catalog.assetExtent locale asset).read store = .ok asset.content.bytes :=
      Extent.read_of_ofFile? (standing.held asset List.mem_cons_self)
    have opened := yields_openExtent catalog store (catalog.assetExtent locale asset) (some locale)
    cases outcome : Region.read asset.content.bytes with
    | ok table =>
      have sound : asset.isSound = true := Asset.isSound_eq_true_iff.2 ⟨table, outcome⟩
      rw [Opening.ofExtent_of_sound read outcome] at opened
      have ran := acceptAssets_cons (accept_of_valid .asset opened) (ih store standing.tail)
      rw [List.filter_cons_of_pos sound, List.filter_cons_of_neg (by simp [sound])]
      exact ran
    | error defect =>
      have corrupt : asset.isSound = false := Asset.isSound_eq_false_iff.2 ⟨defect, outcome⟩
      rw [Opening.ofExtent_of_defect read outcome] at opened
      have retired : ((ofCatalog catalog).supply.quarantine
          (catalog.assetExtent locale asset)).Yields store _ _ :=
        yields_modifyGet _ store
      have ran := acceptAssets_cons (accept_asset_of_invalid opened (.pure () store) retired)
        (ih _ standing.quarantine)
      rw [List.filter_cons_of_neg (by simp [corrupt]), List.filter_cons_of_pos (by simp [corrupt]),
        List.map_cons, List.map_cons, quarantineAll_cons]
      exact ran

/-- Loading the packaged dictionaries keeps and removes what the files say beforehand. -/
theorem acceptAssets_assetSources {locale : Locale} {sound : List Asset} {after : FileStore}
    (listed : catalog.Lists store locale sound) (cleared : catalog.Clears store locale after) :
    ((ofCatalog catalog).acceptAssets locale (catalog.assetSources store locale)).Yields store
      (sound.map fun asset =>
        .ofBytes (catalog.assetExtent locale asset) asset.content.bytes (some locale)) after := by
  obtain ⟨assets, ordered, exact, sources⟩ := catalog.assetSources_eq store locale
  have ran := acceptAssets_standing catalog store locale assets
    (Catalog.standing_of_isAsset ordered fun asset member => (exact asset).1 member)
  rw [← sources, Catalog.lists_filter ordered exact |>.unique listed,
    Catalog.clears_quarantineAll exact |>.unique cleared] at ran
  exact ran

/-! ## Whole loads -/

theorem customOverride?_of_hasCustom {locale : Locale} {content : Content}
    (installed : catalog.HasCustom store locale content) :
    catalog.customOverride? store locale =
      some ⟨catalog.customPath locale, 0, content.size, true⟩ :=
  Extent.ofFile?_eq_some_iff.2 ⟨content, installed.1, installed.2, rfl⟩

theorem customOverride?_eq_none_iff {locale : Locale} :
    catalog.customOverride? store locale = none ↔
      ∀ content, ¬ catalog.HasCustom store locale content := by
  rw [Option.eq_none_iff_forall_ne_some]
  constructor
  · intro nothing content installed
    exact nothing _ (customOverride?_of_hasCustom catalog store installed)
  · intro alone extent found
    obtain ⟨content, held, filled, _⟩ := Extent.ofFile?_eq_some_iff.1 found
    exact alone content ⟨held, filled⟩

/-- Where there is no dictionary of the user's own, a load is one from the packaged ones. -/
theorem create_of_alone (on : catalog.settings.enabled = true) {locale : Locale}
    {after : FileStore} {collection : Collection Dictionary}
    (alone : ∀ content, ¬ catalog.HasCustom store locale content)
    (served : ((ofCatalog catalog).fromAssets locale (catalog.assetSources store locale)).Yields
      store collection after) :
    ((ofCatalog catalog).create (some locale)).Yields store collection after := by
  have asked := yields_customOverride catalog store locale
  rw [(customOverride?_eq_none_iff catalog store).2 alone] at asked
  exact create_without_custom on asked (yields_assetSources catalog store locale) served

theorem embeddedMember_of_sound {locale : Locale} {extent : Extent} {bytes : List UInt8}
    (found : catalog.Fallback store (some locale) extent bytes) {table : WordTable}
    (sound : Region.read bytes = .ok table) :
    ((ofCatalog catalog).embeddedMember locale).Yields store
      (some (.ofBytes extent bytes (some locale))) store := by
  have asked := yields_embeddedFallback catalog store (some locale)
  have opened := yields_openExtent catalog store extent (some locale)
  rw [Catalog.embeddedFallback?_eq_some_iff.2 ⟨bytes, found⟩] at asked
  rw [Opening.ofExtent_of_sound found.read sound] at opened
  exact embeddedMember_of_some asked (accept_of_valid .embedded opened)

theorem embeddedMember_of_missing {locale : Locale}
    (missing : ∀ extent bytes, catalog.Fallback store (some locale) extent bytes →
      ∃ defect, Region.read bytes = .error defect) :
    ((ofCatalog catalog).embeddedMember locale).Yields store none store := by
  have asked := yields_embeddedFallback catalog store (some locale)
  cases answer : catalog.embeddedFallback? store (some locale) with
  | none =>
    rw [answer] at asked
    exact embeddedMember_of_none asked
  | some extent =>
    obtain ⟨bytes, found⟩ := Catalog.embeddedFallback?_eq_some_iff.1 answer
    obtain ⟨defect, corrupt⟩ := missing extent bytes found
    have opened := yields_openExtent catalog store extent (some locale)
    rw [answer] at asked
    rw [Opening.ofExtent_of_defect found.read corrupt] at opened
    exact embeddedMember_of_some asked (accept_embedded_of_invalid opened (.pure () store))

theorem create_of_resolves {locale : Option Locale} {members : List Dictionary}
    {after : FileStore} (resolves : catalog.Resolves store locale members after) :
    ((ofCatalog catalog).create locale).Yields store (.ofMembers .main locale members) after := by
  cases resolves with
  | disabled off => exact create_of_disabled off locale store
  | neutral on found =>
    have asked := yields_embeddedFallback catalog store none
    rw [Catalog.embeddedFallback?_eq_some_iff.2 ⟨_, found⟩] at asked
    have kept := neutralMember_of_some asked (yields_openExtent catalog store _ none)
    rw [Opening.dictionary?_ofExtent found.read] at kept
    exact create_neutral on kept
  | neutral_missing on missing =>
    have asked := yields_embeddedFallback catalog store none
    have nothing : catalog.embeddedFallback? store none = none := by
      rw [Option.eq_none_iff_forall_ne_some]
      intro extent answer
      obtain ⟨bytes, found⟩ := Catalog.embeddedFallback?_eq_some_iff.1 answer
      exact missing extent bytes found
    rw [nothing] at asked
    exact create_neutral on (neutralMember_of_none asked)
  | @custom on locale content installed =>
    have asked := yields_customOverride catalog store locale
    have kept := accept_custom (yields_openExtent catalog store
      ⟨catalog.customPath locale, 0, content.size, true⟩ (some locale))
    rw [customOverride?_of_hasCustom catalog store installed] at asked
    rw [Opening.dictionary?_ofExtent (Extent.read_of_ofFile? installed.1)] at kept
    exact create_of_custom on asked kept
  | assets on alone listed some_sound cleared =>
    refine create_of_alone catalog store on alone (fromAssets_of_ne_nil ?_ ?_)
    · simpa using some_sound
    · exact acceptAssets_assetSources catalog store listed cleared
  | fallback on alone listed cleared found sound =>
    exact create_of_alone catalog store on alone
      (fromAssets_of_nil (acceptAssets_assetSources catalog store listed cleared)
        (embeddedMember_of_sound catalog after found sound))
  | fallback_missing on alone listed cleared missing =>
    exact create_of_alone catalog store on alone
      (fromAssets_of_nil (acceptAssets_assetSources catalog store listed cleared)
        (embeddedMember_of_missing catalog after missing))

theorem exists_resolves (locale : Option Locale) :
    ∃ members after, catalog.Resolves store locale members after := by
  cases on : catalog.settings.enabled with
  | false => exact ⟨_, _, .disabled on⟩
  | true =>
    cases locale with
    | none =>
      by_cases found : ∃ extent bytes, catalog.Fallback store none extent bytes
      · obtain ⟨extent, bytes, found⟩ := found
        exact ⟨_, _, .neutral on found⟩
      · simp only [not_exists] at found
        exact ⟨_, _, .neutral_missing on found⟩
    | some locale =>
      by_cases installed : ∃ content, catalog.HasCustom store locale content
      · obtain ⟨content, installed⟩ := installed
        exact ⟨_, _, .custom on installed⟩
      · simp only [not_exists] at installed
        obtain ⟨sound, after, listed, cleared⟩ :=
          Catalog.exists_lists_clears catalog store locale
        by_cases some_sound : sound = []
        · subst some_sound
          by_cases found : ∃ extent bytes table,
              catalog.Fallback after (some locale) extent bytes ∧ Region.read bytes = .ok table
          · obtain ⟨extent, bytes, table, found, read⟩ := found
            exact ⟨_, _, .fallback on installed listed cleared found read⟩
          · refine ⟨_, _, .fallback_missing on installed listed cleared ?_⟩
            intro extent bytes offered
            cases read : Region.read bytes with
            | error defect => exact ⟨defect, rfl⟩
            | ok table => exact absurd ⟨extent, bytes, table, offered, read⟩ found
        · exact ⟨_, _, .assets on installed listed some_sound cleared⟩

end Catalogs

/-- The main dictionary that settings lead to, and the files after the load, are the ones described,
and nothing else fits the description. -/
theorem create_resolves (built store : FileStore) (settings : DictionarySettings)
    (locale : Option Locale) :
    ∃ catalog members after, Catalog.Describes catalog built settings ∧
      ((ofSettings built settings).create locale).Yields store (.ofMembers .main locale members)
        after ∧
      ∀ others later, catalog.Resolves store locale others later ↔
        others = members ∧ later = after := by
  rw [ofSettings_eq_ofCatalog]
  obtain ⟨members, after, resolves⟩ := exists_resolves (.ofSettings built settings) store locale
  have ran := create_of_resolves _ store resolves
  refine ⟨_, members, after, Catalog.ofSettings_describes built settings, ran, ?_⟩
  intro others later
  constructor
  · intro described
    obtain ⟨same, done⟩ := (create_of_resolves _ store described).unique ran
    cases same
    exact ⟨rfl, done⟩
  · intro ⟨same, done⟩
    rw [same, done]
    exact resolves

/-- A dictionary without words. -/
def wordless : Content :=
  ⟨[0x9B, 0xC1, 0x3A, 0xFE, 0, 2, 0, 0, 0, 0, 0, 16, 0, 0, 0, 0], by decide⟩

/-- A store with one packaged dictionary, which is sound. -/
def oneSound : FileStore where
  nodes := [(["d"], .directory), (["d", "en"], .directory),
    (["d", "en", "a.dict"], .file wordless)]
  workingDirectory := []
  distinct := by decide
  named := by decide

/-- A sound packaged dictionary stands where it should and is not loaded: its path is longer than
storage takes, although the path of its directory is not. -/
theorem create_passes_over :
    (Catalog.stretched 4088).Packs oneSound .english ⟨"a.dict", wordless⟩ ∧
      (∃ table, Region.read wordless.bytes = .ok table) ∧
      (∀ content, ¬ (Catalog.stretched 4088).HasCustom oneSound .english content) ∧
      ((ofSettings oneSound (Catalog.stretched 4088).settings).create (some .english)).Yields oneSound
        (.ofMembers .main (some .english) []) oneSound := by
  have nothing := Catalog.not_isAsset_stretched 4088 (by simp [longestPath]) oneSound
  have alone : ∀ content, ¬ (Catalog.stretched 4088).HasCustom oneSound .english content := by
    have absent : oneSound.find ((Catalog.stretched 4088).customPath .english) =
        .error .notFound := rfl
    intro content installed
    obtain ⟨location, found⟩ := FileStore.file?_eq_some_iff.1 installed.1
    rw [absent] at found
    cases found
  refine ⟨Catalog.packs_stretched 4088 (by simp [longestPath]) rfl rfl rfl rfl (List.cons_ne_nil _ _),
    ⟨_, rfl⟩, alone, ?_⟩
  rw [ofSettings_eq_ofCatalog]
  refine create_of_resolves _ oneSound (.fallback_missing rfl alone (Catalog.lists_nil nothing)
    (Catalog.clears_self nothing) ?_)
  intro extent bytes found
  obtain ⟨path, manifest, content, packed, _⟩ := found
  cases packed

/-- A corrupt packaged dictionary for each of two locales, and a sound one for the first. -/
def twoLocales : FileStore where
  nodes := [(["data"], .directory), (["data", "dicts"], .directory),
    (["data", "dicts", "en"], .directory),
    (["data", "dicts", "en", "a.dict"], .file ⟨[0], by decide⟩),
    (["data", "dicts", "en", "b.dict"],
      .file ⟨[0x9B, 0xC1, 0x3A, 0xFE, 0, 2, 0, 0, 0, 0, 0, 16, 0, 0, 0, 0], by decide⟩),
    (["data", "dicts", "en_US"], .directory),
    (["data", "dicts", "en_US", "a.dict"], .file ⟨[1], by decide⟩)]
  workingDirectory := []
  distinct := by decide
  named := by decide

end Loader

end Lexicon
