import Lexicon.Proofs.Catalog.Enumeration

/-!
# The names that settings give

Settings build the name of a main dictionary from a stem, a locale and an extension. As the user's own
dictionary such a file is found by that name, whatever the extension is. Among packaged dictionaries a
file is found by what follows the last dot of its name, and that has no dot in it. So the two ways
agree exactly for extensions without a dot; under settings with a dotted extension no packaged
dictionary is ever listed, whatever its name.
-/

set_option autoImplicit false

namespace Lexicon

open Storage

namespace DictionarySettings

variable (settings : DictionarySettings)

theorem extension?_mainFileName (tag : String) :
    extension? (settings.mainFileName tag) = some settings.extension ↔
      '.' ∉ settings.extension.toList := by
  rw [extension?_eq_some_iff]
  constructor
  · intro ⟨plain, _⟩
    exact plain
  · intro plain
    refine ⟨plain, settings.mainStem ++ "_" ++ tag, ?_, rfl⟩
    simp

theorem mainFileName_proper (tag : String) :
    settings.mainFileName tag ≠ "" ∧ settings.mainFileName tag ≠ "." ∧
      settings.mainFileName tag ≠ ".." := by
  have apart : ∀ text : String, '_' ∉ text.toList → settings.mainFileName tag ≠ text := by
    intro text plain same
    exact plain (same ▸ by simp [mainFileName])
  exact ⟨apart "" (by decide), apart "." (by decide), apart ".." (by decide)⟩

theorem slash_not_mem_mainFileName (locale : Locale) (stem : '/' ∉ settings.mainStem.toList)
    (extension : '/' ∉ settings.extension.toList) :
    '/' ∉ (settings.mainFileName locale.tag).toList := by
  have tag : '/' ∉ locale.tag.toList := fun slash => (locale.tag_plain slash).1 rfl
  simp [mainFileName, stem, tag, extension]

end DictionarySettings

namespace Catalog

variable {catalog : Catalog} {store : FileStore} {locale : Locale}

/-- A file under the name of a main dictionary, as a packaged one. -/
def mainAsset (catalog : Catalog) (locale : Locale) (content : Content) : Asset :=
  ⟨catalog.settings.mainFileName locale.tag, content⟩

theorem mem_assetSources_iff {extent : Extent} :
    extent ∈ catalog.assetSources store locale ↔
      ∃ asset, catalog.IsAsset store locale asset ∧ extent = catalog.assetExtent locale asset := by
  obtain ⟨assets, _, listed, sources⟩ := assetSources_eq catalog store locale
  simp only [sources, List.mem_map, listed, eq_comm]

theorem assetSources_of_dotted (dotted : '.' ∈ catalog.settings.extension.toList) :
    catalog.assetSources store locale = [] := by
  rw [List.eq_nil_iff_forall_not_mem]
  intro extent listed
  obtain ⟨asset, isAsset, _⟩ := mem_assetSources_iff.1 listed
  exact isAsset.plain dotted

theorem text_assetDirectory_ne_empty (catalog : Catalog) (locale : Locale) :
    (catalog.assetDirectory locale).text ≠ "" := by
  have relative := FilePath.isAbsolute_of_no_slash fun slash => (locale.tag_plain slash).1 rfl
  have size : catalog.settings.assetsRoot.text.utf8ByteSize + locale.tag.utf8ByteSize ≤
      (catalog.assetDirectory locale).text.utf8ByteSize :=
    FilePath.utf8ByteSize_le_join _ relative
  intro empty
  rw [empty, String.utf8ByteSize_empty] at size
  have nothing : locale.tag.utf8ByteSize = 0 := by omega
  exact locale.tag_ne_empty (String.utf8ByteSize_eq_zero_iff.1 nothing)

section MainAsset

variable {content : Content} (stem : '/' ∉ catalog.settings.mainStem.toList)
  (extension : '/' ∉ catalog.settings.extension.toList)

include stem extension

/-- Under the name of a main dictionary a file is a packaged one unless the extension has a dot. -/
theorem isAsset_mainAsset_iff :
    catalog.IsAsset store locale (catalog.mainAsset locale content) ↔
      store.file? (catalog.assetPath locale (catalog.mainAsset locale content)) = some content ∧
        content.bytes ≠ [] ∧ '.' ∉ catalog.settings.extension.toList := by
  constructor
  · intro isAsset
    exact ⟨isAsset.held, isAsset.filled, isAsset.plain⟩
  · intro ⟨held, filled, plain⟩
    obtain ⟨location, found⟩ := FileStore.file?_eq_some_iff.1 held
    have holds : store.Holds (catalog.assetDirectory locale)
        (catalog.settings.mainFileName locale.tag) (.file content) :=
      FileStore.holds_of_find_join
        (catalog.settings.slash_not_mem_mainFileName locale stem extension)
        (catalog.settings.mainFileName_proper locale.tag)
        (catalog.text_assetDirectory_ne_empty locale) found
    obtain ⟨_, cut, _, _⟩ := FileStore.find_eq_ok_iff.1 found
    obtain ⟨_, _, short, _⟩ := FileStore.stepsOf_eq_ok_iff.1 cut
    have named := (catalog.settings.extension?_mainFileName locale.tag).2 plain
    exact isAsset_iff.2 ⟨holds, short, named, filled⟩

end MainAsset

/-- A file that holds something and has the name of a main dictionary is taken as the user's own one
whatever the extension is. As a packaged one it is listed exactly if the extension has no dot, and
under a dotted extension nothing at all is listed. -/
theorem mainAsset_listed_iff (catalog : Catalog) (locale : Locale) (content : Content)
    (stem : '/' ∉ catalog.settings.mainStem.toList)
    (extension : '/' ∉ catalog.settings.extension.toList) (filled : content.bytes ≠ []) :
    (∀ store : FileStore, store.file? (catalog.customPath locale) = some content →
      catalog.customOverride? store locale =
        some ⟨catalog.customPath locale, 0, content.size, true⟩) ∧
    (∀ store : FileStore,
      store.file? (catalog.assetPath locale (catalog.mainAsset locale content)) = some content →
        (catalog.assetExtent locale (catalog.mainAsset locale content) ∈
            catalog.assetSources store locale ↔ '.' ∉ catalog.settings.extension.toList)) ∧
    ('.' ∈ catalog.settings.extension.toList →
      ∀ store : FileStore, catalog.assetSources store locale = []) := by
  refine ⟨?_, ?_, ?_⟩
  · intro store held
    exact Extent.ofFile?_eq_some_iff.2 ⟨content, held, filled, rfl⟩
  · intro store held
    rw [mem_assetSources_iff]
    constructor
    · intro ⟨asset, isAsset, _⟩
      exact isAsset.plain
    · intro plain
      exact ⟨_, (isAsset_mainAsset_iff stem extension).2 ⟨held, filled, plain⟩, rfl⟩
  · intro dotted store
    exact assetSources_of_dotted dotted

/-- A store in which one file stands, under each of two names, both in the directory of the user's
dictionaries and in that of the packaged ones. -/
def namedTwice : FileStore where
  nodes := [(["data"], .directory), (["data", "custom"], .directory),
    (["data", "custom", "main_en."], .file onlyAsset.content),
    (["data", "custom", "main_en.v1.dict"], .file onlyAsset.content),
    (["data", "dicts"], .directory), (["data", "dicts", "en"], .directory),
    (["data", "dicts", "en", "main_en."], .file onlyAsset.content),
    (["data", "dicts", "en", "main_en.v1.dict"], .file onlyAsset.content)]
  workingDirectory := []
  distinct := by decide
  named := by decide

def bareCatalog : Catalog := ⟨{ extension := "" }, none⟩

def dottedCatalog : Catalog := ⟨{ extension := "v1.dict" }, none⟩

theorem mainAsset_listed_iff_namedTwice :
    bareCatalog.customOverride? namedTwice .english =
        some ⟨⟨"data/custom/main_en."⟩, 0, 1, true⟩ ∧
      ⟨⟨"data/dicts/en/main_en."⟩, 0, 1, true⟩ ∈ bareCatalog.assetSources namedTwice .english ∧
      dottedCatalog.assetSources namedTwice .english = [] := by
  have filled : onlyAsset.content.bytes ≠ [] := by decide
  obtain ⟨custom, listed, _⟩ :=
    mainAsset_listed_iff bareCatalog .english onlyAsset.content (by decide) (by decide) filled
  obtain ⟨_, _, nothing⟩ :=
    mainAsset_listed_iff dottedCatalog .english onlyAsset.content (by decide) (by decide) filled
  refine ⟨custom namedTwice rfl, ?_, nothing (by decide) namedTwice⟩
  exact (listed namedTwice rfl).2 (by decide)

/-- With a dotted extension the user's own dictionary is found, and the same file under the same name
is not listed among the packaged ones. -/
theorem not_listed_under_dotted_extension :
    dottedCatalog.customOverride? namedTwice .english =
        some ⟨⟨"data/custom/main_en.v1.dict"⟩, 0, 1, true⟩ ∧
      namedTwice.file? ⟨"data/custom/main_en.v1.dict"⟩ = some onlyAsset.content ∧
      namedTwice.file? ⟨"data/dicts/en/main_en.v1.dict"⟩ = some onlyAsset.content ∧
      (⟨⟨"data/dicts/en/main_en.v1.dict"⟩, 0, 1, true⟩ : Extent) ∉
        dottedCatalog.assetSources namedTwice .english := by
  refine ⟨by decide, rfl, rfl, ?_⟩
  rw [assetSources_of_dotted (by decide)]
  exact List.not_mem_nil

end Catalog

end Lexicon
