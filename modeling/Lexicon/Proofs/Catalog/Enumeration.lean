import Lexicon.Proofs.Catalog.Sources

/-!
# Enumerating packaged dictionaries

Which files are listed for a locale, told by what stands in its directory and by nothing else: the
order in which a directory gives its names does not matter. A name has to be a stem, a dot and the
extension of dictionaries, so an extension with a dot in it fits no name.

What is listed is named by a path, and a path can be too long for storage. An entry that only such a
path names is passed over.
-/

set_option autoImplicit false

namespace Lexicon

open Storage

namespace Catalog

section Sources

variable {catalog : Catalog} {store : FileStore} {locale : Locale}

theorem assetSources_of_perm {other : FileStore} (nodes : other.nodes.Perm store.nodes)
    (sameStart : other.workingDirectory = store.workingDirectory) :
    catalog.assetSources other locale = catalog.assetSources store locale := by
  obtain ⟨assets, order, listed, sources⟩ := assetSources_eq catalog store locale
  obtain ⟨others, order', listed', sources'⟩ := assetSources_eq catalog other locale
  have same : others = assets := by
    apply order'.eq_of_mem_iff order
    intro asset
    simp only [listed', listed, isAsset_iff, FileStore.holds_of_perm nodes sameStart]
  rw [sources, sources', same]

theorem assetSources_of_no_directory
    (closed : ∀ root, store.find (catalog.assetDirectory locale) ≠ .ok (root, .directory)) :
    catalog.assetSources store locale = [] := by
  obtain ⟨assets, _, listed, sources⟩ := assetSources_eq catalog store locale
  cases assets with
  | nil => exact sources
  | cons first rest =>
    obtain ⟨root, opened, _⟩ := ((listed first).1 List.mem_cons_self).exists_find
    exact absurd opened (closed root)

/-- A packaged dictionary of one locale is in the directory of no other. -/
theorem IsAsset.not_liesIn {asset : Asset} (isAsset : catalog.IsAsset store locale asset)
    {other : Locale} (different : other ≠ locale) :
    ¬ store.LiesIn (catalog.assetPath locale asset) (catalog.assetDirectory other) := by
  rintro ⟨root', name, content, opened', found'⟩
  obtain ⟨root, opened, found⟩ := isAsset.exists_find
  rw [found] at found'
  simp only [Except.ok.injEq, Prod.mk.injEq] at found'
  obtain ⟨rfl, _⟩ := List.append_inj' found'.1 rfl
  exact different (eq_of_assetDirectory opened' opened)

end Sources

/-- The packaged dictionaries of a locale are the files with fitting names right in its directory that
hold something and whose path storage takes, in the byte order of their names, whatever order the
store has. -/
theorem assetSources_exact (catalog : Catalog) (store : FileStore) (locale : Locale) :
    (∃ assets, InByteOrder assets ∧
      (∀ asset, asset ∈ assets ↔ catalog.Packs store locale asset ∧
        (catalog.assetPath locale asset).text.utf8ByteSize ≤ longestPath) ∧
      catalog.assetSources store locale = assets.map (catalog.assetExtent locale)) ∧
    (∀ other : FileStore, other.nodes.Perm store.nodes →
      other.workingDirectory = store.workingDirectory →
      catalog.assetSources other locale = catalog.assetSources store locale) ∧
    ((∀ root, store.find (catalog.assetDirectory locale) ≠ .ok (root, .directory)) →
      catalog.assetSources store locale = []) ∧
    ∀ extent ∈ catalog.assetSources store locale,
      (∃ stem content, stem ≠ "" ∧
        extent.path = (catalog.assetDirectory locale).join
          ⟨stem ++ "." ++ catalog.settings.extension⟩ ∧
        store.file? extent.path = some content ∧ content.bytes ≠ []) ∧
      ∀ other, other ≠ locale → ¬ store.LiesIn extent.path (catalog.assetDirectory other) := by
  obtain ⟨assets, order, listed, sources⟩ := assetSources_eq catalog store locale
  refine ⟨⟨assets, order, ?_, sources⟩, ?_, assetSources_of_no_directory, ?_⟩
  · intro asset
    rw [listed]
    exact ⟨fun isAsset => ⟨isAsset.toPacks, isAsset.short⟩, fun ⟨packs, short⟩ => ⟨packs, short⟩⟩
  · intro other nodes sameStart
    exact assetSources_of_perm nodes sameStart
  · intro extent member
    rw [sources, List.mem_map] at member
    obtain ⟨asset, among, rfl⟩ := member
    have isAsset := (listed asset).1 among
    obtain ⟨stem, filled, name⟩ := isAsset.named
    refine ⟨⟨stem, asset.content, filled, ?_, isAsset.held, isAsset.filled⟩, ?_⟩
    · rw [assetExtent, assetPath, name]
    · intro other different
      exact isAsset.not_liesIn different

/-- A store with a directory of one locale: a hidden file, a directory, an empty file and files with
other extensions beside two dictionaries. -/
def mixedDirectory : FileStore where
  nodes := [(["dicts"], .directory), (["dicts", "en"], .directory),
    (["dicts", "en", "b.c.dict"], .file ⟨[3, 4], by decide⟩),
    (["dicts", "en", ".dict"], .file ⟨[3], by decide⟩),
    (["dicts", "en", "d.dict"], .directory),
    (["dicts", "en", "a.dict"], .file ⟨[3], by decide⟩),
    (["dicts", "en", "e.dict"], .file ⟨[], by decide⟩),
    (["dicts", "en", "f.Dict"], .file ⟨[3], by decide⟩),
    (["dicts", "en", "dict"], .file ⟨[3], by decide⟩)]
  workingDirectory := []
  distinct := by decide
  named := by decide

/-- The same store with its nodes in the opposite order. -/
def mixedDirectoryReversed : FileStore where
  nodes := mixedDirectory.nodes.reverse
  workingDirectory := []
  distinct := by decide
  named := by decide

def mixedCatalog : Catalog := ⟨{ assetsDirectory := some ⟨"dicts"⟩ }, none⟩

theorem assetSources_exact_mixedDirectory :
    mixedCatalog.assetSources mixedDirectory .english =
        [⟨⟨"dicts/en/a.dict"⟩, 0, 1, true⟩, ⟨⟨"dicts/en/b.c.dict"⟩, 0, 2, true⟩] ∧
      mixedDirectoryReversed.nodes.Perm mixedDirectory.nodes ∧
      mixedCatalog.assetSources mixedDirectoryReversed .english =
        mixedCatalog.assetSources mixedDirectory .english ∧
      mixedCatalog.assetSources mixedDirectory .american = [] ∧
      ¬ mixedDirectory.LiesIn ⟨"dicts/en/a.dict"⟩ (mixedCatalog.assetDirectory .american) := by
  have names : mixedDirectory.list (mixedCatalog.assetDirectory .english) =
      .ok ["b.c.dict", ".dict", "d.dict", "a.dict", "e.dict", "f.Dict", "dict"] := by rfl
  have fitting : (["b.c.dict", ".dict", "d.dict", "a.dict", "e.dict", "f.Dict", "dict"].filter
      fun name => extension? name == some mixedCatalog.settings.extension) =
        ["b.c.dict", "d.dict", "a.dict", "e.dict"] := by decide
  have sorted : (["b.c.dict", "d.dict", "a.dict", "e.dict"].mergeSort
      fun first second => first ≤ second) = ["a.dict", "b.c.dict", "d.dict", "e.dict"] := by
    simp [List.mergeSort, List.MergeSort.Internal.splitInTwo]
  have listed : mixedCatalog.assetSources mixedDirectory .english =
      [⟨⟨"dicts/en/a.dict"⟩, 0, 1, true⟩, ⟨⟨"dicts/en/b.c.dict"⟩, 0, 2, true⟩] := by
    rw [assetSources_of_list names, assetNames, fitting, sorted]
    decide
  have reversed : mixedDirectoryReversed.nodes.Perm mixedDirectory.nodes :=
    List.reverse_perm mixedDirectory.nodes
  have missing : mixedDirectory.find (mixedCatalog.assetDirectory .american) = .error .notFound := by
    rfl
  obtain ⟨_, ordered, _, sources⟩ := assetSources_exact mixedCatalog mixedDirectory .english
  obtain ⟨_, _, empty, _⟩ := assetSources_exact mixedCatalog mixedDirectory .american
  refine ⟨listed, reversed, ordered _ reversed rfl, empty ?_, ?_⟩
  · intro root opened
    rw [missing] at opened
    cases opened
  · exact (sources _ (listed ▸ List.mem_cons_self)).2 .american (by decide)

/-! ## Entries out of reach -/

def slashes : Nat → String
  | 0 => ""
  | count + 1 => slashes count ++ "/"

theorem toList_slashes_succ (count : Nat) :
    (slashes (count + 1)).toList = (slashes count).toList ++ ['/'] := by
  simp [slashes]

theorem eq_of_mem_slashes {count : Nat} {c : Char} (member : c ∈ (slashes count).toList) :
    c = '/' := by
  induction count with
  | zero => cases member
  | succ count ih =>
    rw [toList_slashes_succ, List.mem_append, List.mem_singleton] at member
    exact member.elim ih id

@[simp] theorem utf8ByteSize_slashes (count : Nat) : (slashes count).utf8ByteSize = count := by
  induction count with
  | zero => rfl
  | succ count ih =>
    have slash : "/".utf8ByteSize = 1 := rfl
    rw [slashes, String.utf8ByteSize_append, ih, slash]

/-- Each slash at the end of a path is a step that stays where it is. -/
theorem steps_slashes (text : String) (count : Nat) :
    (FilePath.mk (text ++ slashes count)).steps =
      (FilePath.mk text).steps ++ List.replicate count "" := by
  induction count with
  | zero => simp [slashes]
  | succ count ih =>
    rw [FilePath.steps, String.toList_append, toList_slashes_succ, ← List.append_assoc,
      List.splitOn_append_cons_self, List.map_append, ← String.toList_append]
    rw [FilePath.steps] at ih
    rw [ih, List.replicate_succ', List.append_assoc]
    rfl

theorem follow_replicate {store : FileStore} {location : Location}
    (directory : store.nodeAt? location = some .directory) (count : Nat) (rest : List String) :
    store.follow location (List.replicate count "" ++ rest) = store.follow location rest := by
  induction count with
  | zero => rfl
  | succ count ih =>
    rw [List.replicate_succ, List.cons_append, FileStore.follow, directory]
    exact ih

def onlyAsset : Asset := ⟨"a.dict", ⟨[5], by decide⟩⟩

/-- A store with one file, right in the directory of a locale. -/
def oneDictionary : FileStore where
  nodes := [(["d"], .directory), (["d", "en"], .directory),
    (["d", "en", "a.dict"], .file onlyAsset.content)]
  workingDirectory := []
  distinct := by decide
  named := by decide

/-- Settings that name a directory by a path with many slashes at its end. -/
def stretched (count : Nat) : Catalog :=
  ⟨{ assetsDirectory := some ⟨"d" ++ slashes (count + 1)⟩ }, none⟩

section Stretched

variable (count : Nat)

private theorem toList_stretched :
    ("d" ++ slashes (count + 1)).toList = ("d" ++ slashes count).toList ++ ['/'] := by
  rw [String.toList_append, toList_slashes_succ, ← List.append_assoc, ← String.toList_append]

theorem assetDirectory_stretched :
    (stretched count).assetDirectory .english = ⟨"d" ++ slashes (count + 1) ++ "en"⟩ := by
  have ends : ("d" ++ slashes (count + 1)).toList.getLast? = some '/' := by
    rw [toList_stretched, List.getLast?_concat]
  have filled : "d" ++ slashes (count + 1) ≠ "" := by simp
  have relative : (FilePath.mk (Locale.tag .english)).isAbsolute = false := rfl
  change FilePath.join ⟨"d" ++ slashes (count + 1)⟩ ⟨Locale.tag .english⟩ = _
  rw [FilePath.join, if_neg (by simp [relative, filled]), if_pos ends]
  rfl

theorem steps_assetDirectory_stretched :
    ((stretched count).assetDirectory .english).steps =
      ["d"] ++ (List.replicate count "" ++ ["en"]) := by
  have relative : (FilePath.mk (Locale.tag .english)).isAbsolute = false := rfl
  have ends : (FilePath.mk ("d" ++ slashes (count + 1))).text.toList =
      ("d" ++ slashes count).toList ++ ['/'] := toList_stretched count
  obtain ⟨_, joined⟩ := FilePath.steps_join_of_slash ends relative
  have first : (FilePath.mk "d").steps = ["d"] := rfl
  have last : (FilePath.mk (Locale.tag .english)).steps = ["en"] := rfl
  change (FilePath.join ⟨"d" ++ slashes (count + 1)⟩ ⟨Locale.tag .english⟩).steps = _
  rw [joined, String.ofList_toList, steps_slashes, first, last, List.append_assoc]

theorem utf8ByteSize_assetDirectory_stretched :
    ((stretched count).assetDirectory .english).text.utf8ByteSize = count + 4 := by
  have size : "d".utf8ByteSize = 1 ∧ "en".utf8ByteSize = 2 := ⟨rfl, rfl⟩
  rw [assetDirectory_stretched, String.utf8ByteSize_append, String.utf8ByteSize_append,
    utf8ByteSize_slashes, size.1, size.2]
  omega

/-- As long as its own path is short enough the directory is found, whatever its path looks like. -/
theorem find_assetDirectory_stretched {store : FileStore} (start : store.workingDirectory = [])
    (outer : store.nodeAt? ["d"] = some .directory)
    (inner : store.nodeAt? ["d", "en"] = some .directory) (short : count + 4 ≤ longestPath) :
    store.find ((stretched count).assetDirectory .english) = .ok (["d", "en"], .directory) := by
  rw [FileStore.find_eq_ok_iff]
  refine ⟨_, FileStore.stepsOf_eq_ok_iff.2 ⟨?_, ?_, ?_, rfl⟩, ?_, inner⟩
  · rw [assetDirectory_stretched]
    intro zero
    simp at zero
    cases eq_of_mem_slashes zero
  · simp [assetDirectory_stretched]
  · rw [utf8ByteSize_assetDirectory_stretched]
    exact short
  · rw [steps_assetDirectory_stretched, FileStore.follow_append_eq_ok_iff]
    refine ⟨["d"], ?_, ?_⟩
    · rw [FileStore.start, start, ite_self]
      exact FileStore.follow_cons_eq_ok_iff.2 ⟨rfl, ["d"], rfl, rfl⟩
    · rw [follow_replicate outer]
      exact FileStore.follow_cons_eq_ok_iff.2 ⟨outer, ["d", "en"], rfl, rfl⟩

theorem packs_stretched (short : count + 4 ≤ longestPath) {store : FileStore}
    (start : store.workingDirectory = []) (outer : store.nodeAt? ["d"] = some .directory)
    (inner : store.nodeAt? ["d", "en"] = some .directory) {content : Content}
    (stands : store.nodeAt? ["d", "en", "a.dict"] = some (.file content))
    (filled : content.bytes ≠ []) :
    (stretched count).Packs store .english ⟨"a.dict", content⟩ where
  holds := ⟨_, find_assetDirectory_stretched count start outer inner short, stands⟩
  filled := filled
  named := ⟨"a", by decide, rfl⟩
  plain := by
    have extension : (stretched count).settings.extension = "dict" := rfl
    rw [extension]
    decide

/-- No name of a packaged dictionary is short enough to follow the directory. -/
theorem not_isAsset_stretched (long : longestPath < count + 10) (store : FileStore) (asset : Asset) :
    ¬ (stretched count).IsAsset store .english asset := by
  intro isAsset
  obtain ⟨stem, filled, name⟩ := isAsset.named
  have joined := FilePath.utf8ByteSize_le_join ((stretched count).assetDirectory .english)
    isAsset.holds.isName.isAbsolute_eq_false
  have short := isAsset.short
  have stemSize : stem.utf8ByteSize ≠ 0 := fun zero =>
    filled (String.utf8ByteSize_eq_zero_iff.1 zero)
  have extension : (stretched count).settings.extension = "dict" := rfl
  have size : asset.name.utf8ByteSize = stem.utf8ByteSize + 5 := by
    rw [name, extension, String.utf8ByteSize_append, String.utf8ByteSize_append]
    rfl
  rw [assetPath] at short
  rw [utf8ByteSize_assetDirectory_stretched] at joined
  simp only [size] at joined
  omega

theorem assetSources_stretched (long : longestPath < count + 10) (store : FileStore) :
    (stretched count).assetSources store .english = [] := by
  obtain ⟨assets, _, listed, sources⟩ := assetSources_eq (stretched count) store .english
  cases assets with
  | nil => exact sources
  | cons first rest =>
    exact absurd ((listed first).1 List.mem_cons_self) (not_isAsset_stretched count long store first)

end Stretched

/-- The path of a file that stands in its directory can be too long although the path of the directory
is not. Such a file is not listed. -/
theorem assetSources_passes_over :
    (stretched 4088).Packs oneDictionary .english onlyAsset ∧
      (stretched 4088).assetExtent .english onlyAsset ∉
        (stretched 4088).assetSources oneDictionary .english :=
  ⟨packs_stretched 4088 (by simp [longestPath]) rfl rfl rfl rfl (List.cons_ne_nil 5 []),
    assetSources_stretched 4088 (by simp [longestPath]) oneDictionary ▸ List.not_mem_nil⟩

end Catalog

end Lexicon
