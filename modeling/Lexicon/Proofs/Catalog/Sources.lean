import Mathlib.Data.List.Sort
import Mathlib.Data.List.TakeWhile
import Lexicon.Catalog
import Lexicon.Proofs.Locale.Tag
import Lexicon.Proofs.Storage.Listing
import Lexicon.Proofs.Text.ByteOrder

/-!
# What a catalog lists

The packaged dictionaries of a locale are exactly the files with a fitting name in its directory that
hold something and whose path storage takes, each found once and in the byte order of the names. A name
fits if it is a stem, a dot and the extension of dictionaries, so an extension with a dot in it fits no
name.
-/

set_option autoImplicit false

namespace Lexicon

namespace Storage

/-- A file name is cut at its last dot, which is the first one from behind. -/
theorem extension?_of_reverse {name : String} {ending before : List Char} (plain : '.' ∉ ending)
    (cut : name.toList.reverse = ending ++ '.' :: before) :
    extension? name = if before = [] then none else some (String.ofList ending.reverse) := by
  have passes : ∀ c ∈ ending, (c != '.') = true := by
    intro c member
    rw [bne_iff_ne]
    rintro rfl
    exact plain member
  have stop : ('.' != '.') = false := rfl
  rw [extension?, cut, List.dropWhile_append_of_pos passes, List.takeWhile_append_of_pos passes,
    List.dropWhile_cons, List.takeWhile_cons, stop]
  cases before with
  | nil => rfl
  | cons last rest => simp

theorem extension?_eq_some_iff {name extension : String} :
    extension? name = some extension ↔
      '.' ∉ extension.toList ∧ ∃ stem, stem ≠ "" ∧ name = stem ++ "." ++ extension := by
  constructor
  · intro found
    by_cases dotted : '.' ∈ name.toList.reverse
    · obtain ⟨ending, before, cut, plain⟩ := List.eq_append_cons_of_mem dotted
      rw [extension?_of_reverse plain cut] at found
      split at found
      · cases found
      · next filled =>
        cases found
        refine ⟨by simpa using plain, String.ofList before.reverse, by simpa using filled, ?_⟩
        have whole := congrArg List.reverse cut
        rw [List.reverse_reverse] at whole
        apply String.toList_injective
        simp [whole]
    · have passes : ∀ c ∈ name.toList.reverse, (c != '.') = true := by
        intro c member
        rw [bne_iff_ne]
        rintro rfl
        exact dotted member
      rw [extension?, List.dropWhile_eq_nil_iff.2 passes] at found
      cases found
  · rintro ⟨plain, stem, filled, rfl⟩
    have cut : (stem ++ "." ++ extension).toList.reverse =
        extension.toList.reverse ++ '.' :: stem.toList.reverse := by simp
    have held : stem.toList.reverse ≠ [] := by simpa using filled
    rw [extension?_of_reverse (by simpa using plain) cut, if_neg held, List.reverse_reverse,
      String.ofList_toList]

end Storage

open Storage

structure Asset where
  name : String
  content : Content

/-- Files in the byte order of their names, each name once. -/
def InByteOrder (assets : List Asset) : Prop :=
  assets.Pairwise fun first second => Text.encodeUtf8 first.name < Text.encodeUtf8 second.name

namespace InByteOrder

theorem eq_of_mem_iff {left right : List Asset} (leftOrder : InByteOrder left)
    (rightOrder : InByteOrder right) (same : ∀ asset, asset ∈ left ↔ asset ∈ right) :
    left = right := by
  have antisymm : Std.Antisymm fun first second : Asset =>
      Text.encodeUtf8 first.name < Text.encodeUtf8 second.name :=
    ⟨fun _ _ below above => absurd (List.lt_trans below above) (List.lt_irrefl _)⟩
  have irrefl : Std.Irrefl fun first second : Asset =>
      Text.encodeUtf8 first.name < Text.encodeUtf8 second.name :=
    ⟨fun _ => List.lt_irrefl _⟩
  exact List.Pairwise.eq_of_mem_iff leftOrder rightOrder same

theorem filter {assets : List Asset} (order : InByteOrder assets) (keeps : Asset → Bool) :
    InByteOrder (assets.filter keeps) :=
  List.Pairwise.filter keeps order

end InByteOrder

namespace Catalog

variable {catalog : Catalog} {store : FileStore} {locale : Locale}

/-! ## Packaged dictionaries -/

def assetPath (catalog : Catalog) (locale : Locale) (asset : Asset) : FilePath :=
  (catalog.assetDirectory locale).join ⟨asset.name⟩

def assetExtent (catalog : Catalog) (locale : Locale) (asset : Asset) : Extent :=
  ⟨catalog.assetPath locale asset, 0, asset.content.size, true⟩

/-- A file that holds something stands right in the directory of a locale, and its name is a stem, a
dot and the extension of dictionaries, which is all that follows the last dot. -/
structure Packs (catalog : Catalog) (store : FileStore) (locale : Locale) (asset : Asset) :
    Prop where
  holds : store.Holds (catalog.assetDirectory locale) asset.name (.file asset.content)
  filled : asset.content.bytes ≠ []
  named : ∃ stem, stem ≠ "" ∧ asset.name = stem ++ "." ++ catalog.settings.extension
  plain : '.' ∉ catalog.settings.extension.toList

/-- Such a file is found by its path unless that is longer than storage takes. -/
structure IsAsset (catalog : Catalog) (store : FileStore) (locale : Locale) (asset : Asset) : Prop
    extends catalog.Packs store locale asset where
  short : (catalog.assetPath locale asset).text.utf8ByteSize ≤ longestPath

theorem isAsset_iff {asset : Asset} :
    catalog.IsAsset store locale asset ↔
      store.Holds (catalog.assetDirectory locale) asset.name (.file asset.content) ∧
        (catalog.assetPath locale asset).text.utf8ByteSize ≤ longestPath ∧
        extension? asset.name = some catalog.settings.extension ∧ asset.content.bytes ≠ [] := by
  rw [extension?_eq_some_iff]
  constructor
  · intro isAsset
    exact ⟨isAsset.holds, isAsset.short, ⟨isAsset.plain, isAsset.named⟩, isAsset.filled⟩
  · intro ⟨holds, short, ⟨plain, named⟩, filled⟩
    exact ⟨⟨holds, filled, named, plain⟩, short⟩

theorem IsAsset.exists_find {asset : Asset} (isAsset : catalog.IsAsset store locale asset) :
    ∃ root, store.find (catalog.assetDirectory locale) = .ok (root, .directory) ∧
      store.find (catalog.assetPath locale asset) =
        .ok (root ++ [asset.name], .file asset.content) := by
  have isName := isAsset.holds.isName
  obtain ⟨root, opened, stands⟩ := isAsset.holds
  exact ⟨root, opened, (FileStore.find_join_name_iff isName opened isAsset.short).2 stands⟩

theorem IsAsset.held {asset : Asset} (isAsset : catalog.IsAsset store locale asset) :
    store.file? (catalog.assetPath locale asset) = some asset.content := by
  obtain ⟨_, _, found⟩ := isAsset.exists_find
  exact FileStore.file?_eq_some_iff.2 ⟨_, found⟩

/-- The same, as a catalog looks: a name in the listing of the directory, and a file by the path. -/
theorem isAsset_iff_listed {names : List String}
    (listed : store.list (catalog.assetDirectory locale) = .ok names) {asset : Asset} :
    catalog.IsAsset store locale asset ↔
      asset.name ∈ names ∧ extension? asset.name = some catalog.settings.extension ∧
        store.file? (catalog.assetPath locale asset) = some asset.content ∧
        asset.content.bytes ≠ [] := by
  obtain ⟨root, opened, rfl⟩ := FileStore.list_eq_ok_iff.1 listed
  constructor
  · intro isAsset
    obtain ⟨_, _, named, filled⟩ := isAsset_iff.1 isAsset
    obtain ⟨root', opened', stands⟩ := isAsset.holds
    rw [opened] at opened'
    cases opened'
    exact ⟨FileStore.mem_namesIn.2 ⟨_, stands⟩, named, isAsset.held, filled⟩
  · intro ⟨member, named, held, filled⟩
    obtain ⟨location, found⟩ := FileStore.file?_eq_some_iff.1 held
    cases FileStore.find_join_name (FileStore.isName_of_mem_namesIn member) opened found
    obtain ⟨_, cut, _, stands⟩ := FileStore.find_eq_ok_iff.1 found
    obtain ⟨_, _, short, _⟩ := FileStore.stepsOf_eq_ok_iff.1 cut
    exact isAsset_iff.2 ⟨⟨root, opened, stands⟩, short, named, filled⟩

private def assetNamed? (catalog : Catalog) (store : FileStore) (locale : Locale) (name : String) :
    Option Asset :=
  (store.file? ((catalog.assetDirectory locale).join ⟨name⟩)).bind fun content =>
    if content.bytes = [] then none else some ⟨name, content⟩

private theorem assetNamed?_eq_some_iff {name : String} {asset : Asset} :
    assetNamed? catalog store locale name = some asset ↔
      asset.name = name ∧ store.file? (catalog.assetPath locale asset) = some asset.content ∧
        asset.content.bytes ≠ [] := by
  rw [assetNamed?, Option.bind_eq_some_iff]
  constructor
  · intro ⟨content, held, found⟩
    split at found
    · cases found
    · next filled =>
      cases found
      exact ⟨rfl, held, filled⟩
  · intro ⟨same, held, filled⟩
    subst same
    exact ⟨asset.content, held, if_neg filled⟩

private theorem ofFile?_assetNamed? (name : String) :
    Extent.ofFile? store ((catalog.assetDirectory locale).join ⟨name⟩) =
      (assetNamed? catalog store locale name).map (catalog.assetExtent locale) := by
  apply Option.ext
  intro extent
  rw [Extent.ofFile?_eq_some_iff, Option.map_eq_some_iff]
  simp only [assetNamed?_eq_some_iff]
  constructor
  · intro ⟨content, held, filled, same⟩
    exact ⟨⟨name, content⟩, ⟨rfl, held, filled⟩, same.symm⟩
  · intro ⟨asset, ⟨same, held, filled⟩, taken⟩
    subst same
    exact ⟨asset.content, held, filled, taken.symm⟩

theorem pairwise_assetNames {names : List String} (distinct : names.Nodup) :
    (catalog.assetNames names).Pairwise fun first second => first < second := by
  have sorted : (catalog.assetNames names).Pairwise fun first second =>
      decide (first ≤ second) = true := by
    refine @List.pairwise_mergeSort _ (fun first second => decide (first ≤ second)) ?_ ?_ _
    · intro first second third below above
      exact decide_eq_true
        (String.le_trans (of_decide_eq_true below) (of_decide_eq_true above))
    · intro first second
      rw [Bool.or_eq_true, decide_eq_true_eq, decide_eq_true_eq]
      exact String.le_total first second
  have apart : (catalog.assetNames names).Nodup :=
    (List.mergeSort_perm _ _).nodup_iff.2 (distinct.filter _)
  refine sorted.imp₂ ?_ apart
  intro first second below different
  rw [← String.not_le]
  intro above
  exact different (String.le_antisymm (of_decide_eq_true below) above)

theorem mem_assetNames {names : List String} {name : String} :
    name ∈ catalog.assetNames names ↔
      name ∈ names ∧ extension? name = some catalog.settings.extension := by
  rw [assetNames, List.mem_mergeSort, List.mem_filter, beq_iff_eq]

theorem assetSources_of_list {names : List String}
    (listed : store.list (catalog.assetDirectory locale) = .ok names) :
    catalog.assetSources store locale =
      (catalog.assetNames names).filterMap fun name =>
        Extent.ofFile? store ((catalog.assetDirectory locale).join ⟨name⟩) := by
  unfold assetSources
  dsimp only
  rw [listed]

/-- The packaged dictionaries are found once each, in order. -/
theorem assetSources_eq (catalog : Catalog) (store : FileStore) (locale : Locale) :
    ∃ assets, InByteOrder assets ∧ (∀ asset, asset ∈ assets ↔ catalog.IsAsset store locale asset) ∧
      catalog.assetSources store locale = assets.map (catalog.assetExtent locale) := by
  cases listing : store.list (catalog.assetDirectory locale) with
  | error cause =>
    have nothing : catalog.assetSources store locale = [] := by
      unfold assetSources
      dsimp only
      rw [listing]
    refine ⟨[], List.Pairwise.nil, ?_, nothing⟩
    intro asset
    constructor
    · intro member
      cases member
    · intro isAsset
      obtain ⟨root, opened, _⟩ := isAsset.exists_find
      rw [FileStore.list_eq_ok_iff.2 ⟨root, opened, rfl⟩] at listing
      cases listing
  | ok names =>
    obtain ⟨root, _, same⟩ := FileStore.list_eq_ok_iff.1 listing
    have distinct : names.Nodup := same ▸ store.nodup_namesIn root
    rw [assetSources_of_list listing]
    refine ⟨(catalog.assetNames names).filterMap (assetNamed? catalog store locale), ?_, ?_, ?_⟩
    · refine (pairwise_assetNames distinct).filterMap _ ?_
      intro name other below first found second found'
      rw [Text.encodeUtf8_lt_iff, (assetNamed?_eq_some_iff.1 found).1,
        (assetNamed?_eq_some_iff.1 found').1]
      exact below
    · intro asset
      rw [List.mem_filterMap, isAsset_iff_listed listing]
      simp only [assetNamed?_eq_some_iff, mem_assetNames]
      constructor
      · intro ⟨name, ⟨member, named⟩, same, held, filled⟩
        subst same
        exact ⟨member, named, held, filled⟩
      · intro ⟨member, named, held, filled⟩
        exact ⟨asset.name, ⟨member, named⟩, rfl, held, filled⟩
    · rw [List.map_filterMap]
      congr 1
      funext name
      exact ofFile?_assetNamed? name

/-- Two packaged dictionaries of one locale are never at one place. -/
theorem IsAsset.eq_of_find {first second : Asset} (isAsset : catalog.IsAsset store locale first)
    (isAsset' : catalog.IsAsset store locale second) {location : Location} {node node' : Node}
    (found : store.find (catalog.assetPath locale first) = .ok (location, node))
    (found' : store.find (catalog.assetPath locale second) = .ok (location, node')) :
    first = second := by
  obtain ⟨root, opened, place⟩ := isAsset.exists_find
  obtain ⟨root', opened', place'⟩ := isAsset'.exists_find
  rw [opened] at opened'
  cases opened'
  rw [place] at found
  rw [place'] at found'
  cases found
  simp only [Except.ok.injEq, Prod.mk.injEq, List.append_cancel_left_eq, List.cons.injEq,
    and_true] at found'
  obtain ⟨names, _⟩ := found'
  have contents : some first.content = some second.content := by
    rw [← isAsset.held, ← isAsset'.held, assetPath, assetPath, names]
  cases first
  cases second
  cases names
  cases contents
  rfl

/-- Different locales have different directories, since the name of a directory tells the locale. -/
theorem eq_of_assetDirectory {first second : Locale} {root : Location} {node node' : Node}
    (opened : store.find (catalog.assetDirectory first) = .ok (root, node))
    (opened' : store.find (catalog.assetDirectory second) = .ok (root, node')) :
    first = second := by
  have named : ∀ (locale : Locale) {node : Node},
      store.find (catalog.assetDirectory locale) = .ok (root, node) →
        ∃ outer, root = outer ++ [locale.tag] := by
    intro locale node opened
    have dotted : ∀ text : String, '.' ∈ text.toList → locale.tag ≠ text := by
      intro text dot same
      exact (locale.tag_plain (same ▸ dot)).2 rfl
    exact FileStore.exists_concat_of_find (fun slash => (locale.tag_plain slash).1 rfl)
      locale.tag_ne_empty (dotted "." (by decide)) (dotted ".." (by decide)) opened
  obtain ⟨outer, rfl⟩ := named first opened
  obtain ⟨outer', same⟩ := named second opened'
  obtain ⟨_, tags⟩ := List.append_inj' same rfl
  exact Locale.tag_injective (List.singleton_inj.1 tags)

end Catalog

end Lexicon
