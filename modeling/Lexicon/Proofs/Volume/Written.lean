import Lexicon.Proofs.Region.Draft
import Lexicon.Proofs.Storage.Extent
import Lexicon.Volume

/-!
# Volumes written by a draft

A region that a draft rendered can stand in a file of its own or anywhere inside a package: opened
from there, the volume gives every word the largest frequency that was written for one of its
spellings. What stands around the region, the order of the words and the choice among equivalent
spellings make no difference.
-/

set_option autoImplicit false

namespace Lexicon

open Storage Region

namespace Region.Draft

def addAll (draft : Draft) (words : List (String × UInt8)) : Draft :=
  words.foldl (fun (draft : Draft) entry => draft.add entry.1 entry.2) draft

def ofWords (version : UInt16) (words : List (String × UInt8)) : Draft :=
  (empty.addAll words).setVersion version

end Region.Draft

/-- The words that fit in a record, with their frequencies. -/
def keptOf (words : List (String × UInt8)) : List (String × Nat) :=
  (words.filter fun entry => entry.1.utf8ByteSize ≤ 255).map fun entry => (entry.1, entry.2.toNat)

theorem Region.Draft.wordsOf_add (draft : Draft) (word : String) (frequency : UInt8) :
    wordsOf (draft.add word frequency).entries =
      wordsOf draft.entries ++ keptOf [(word, frequency)] := by
  by_cases short : word.utf8ByteSize ≤ 255
  · have fits : word.utf8ByteSize ≤ longestWord := short
    simp [add, fits, keptOf, short, wordsOf]
  · have tooLong : ¬ word.utf8ByteSize ≤ longestWord := short
    simp [add, tooLong, keptOf, short]

theorem Region.Draft.wordsOf_addAll (draft : Draft) (words : List (String × UInt8)) :
    wordsOf (draft.addAll words).entries = wordsOf draft.entries ++ keptOf words := by
  induction words generalizing draft with
  | nil => simp [addAll, keptOf]
  | cons entry rest ih =>
    have split : keptOf (entry :: rest) = keptOf [entry] ++ keptOf rest := by
      rw [keptOf, ← List.singleton_append, List.filter_append, List.map_append]
      rfl
    have first : draft.addAll (entry :: rest) = (draft.add entry.1 entry.2).addAll rest := rfl
    rw [first, ih, wordsOf_add, split, List.append_assoc]

theorem Region.Draft.wordsOf_ofWords (version : UInt16) (words : List (String × UInt8)) :
    wordsOf (ofWords version words).entries = keptOf words :=
  wordsOf_addAll empty words

theorem Region.Draft.length_ofWords (version : UInt16) (words : List (String × UInt8)) :
    (ofWords version words).entries.length = (keptOf words).length := by
  rw [← wordsOf_ofWords version words, wordsOf, List.length_map]

namespace Volume

/-- The volume is sound and holds the words of a list, each with the largest frequency given to one
of its spellings. -/
structure Holds (volume : Volume) (words : List (String × Nat)) : Prop where
  sound : volume.defect? = none
  answers : ∀ word, volume.frequency? word = largestGiven? words word
  counted : volume.wordCount = (formsOf words).length

structure Rejected (volume : Volume) (defect : Defect) : Prop where
  defective : volume.defect? = some defect
  silent : ∀ word, volume.frequency? word = none
  empty : volume.wordCount = 0

theorem holds_of_encodes {bytes : List UInt8} {entries : List Entry}
    (encodes : Encodes bytes entries) (extent : Extent) (locale : Option Locale)
    (category : Category) :
    Holds ⟨extent, locale, category, Region.read bytes⟩ (wordsOf entries) := by
  rw [read_eq_ok_iff.2 ⟨entries, encodes, rfl⟩]
  exact ⟨rfl, WordTable.frequency?_ofList _, WordTable.size_ofList _⟩

theorem rejected_of_hasDefect {bytes : List UInt8} {defect : Defect}
    (defective : HasDefect bytes defect) (extent : Extent) (locale : Option Locale)
    (category : Category) :
    Rejected ⟨extent, locale, category, Region.read bytes⟩ defect := by
  rw [read_eq_error_iff.2 defective]
  exact ⟨rfl, fun _ => rfl, rfl⟩

/-- Two volumes that hold the same words up to order and spelling answer alike. -/
theorem Holds.congr {left right : Volume} {words others : List (String × Nat)}
    (first : left.Holds words) (second : right.Holds others)
    (same : (words.map composedEntry).Perm (others.map composedEntry)) :
    (∀ word, left.frequency? word = right.frequency? word) ∧ left.wordCount = right.wordCount := by
  constructor
  · intro word
    rw [first.answers, second.answers, largestGiven?_of_perm same]
  · rw [first.counted, second.counted, (formsOf_perm same).length_eq]

/-- What opening finds in a region that a draft of some version rendered. -/
structure Reads (version : UInt16) (words : List (String × UInt8)) (volume : Volume) : Prop where
  supported : 2 ≤ version.toNat ∧ version.toNat ≤ 4 → volume.Holds (keptOf words)
  unsupported : ¬ (2 ≤ version.toNat ∧ version.toNat ≤ 4) →
    volume.Rejected (.unsupportedVersion version.toNat)

theorem reads_of_render? {version : UInt16} {words : List (String × UInt8)} {bytes : List UInt8}
    (rendered : (Draft.ofWords version words).render? = some bytes) (extent : Extent)
    (locale : Option Locale) (category : Category) :
    Reads version words ⟨extent, locale, category, Region.read bytes⟩ := by
  constructor
  · intro ⟨oldest, newest⟩
    have encodes := Draft.encodes_of_render? rendered oldest newest
    have held := holds_of_encodes encodes extent locale category
    rw [Draft.wordsOf_ofWords] at held
    exact held
  · intro unsupported
    exact rejected_of_hasDefect (Draft.hasDefect_of_render? rendered unsupported) _ _ _

/-- A stretch of a file that is not empty is an extent, and the volume in it is read from the bytes
of that stretch alone. -/
theorem ofExtent_region {store : FileStore} {path : FilePath} {content : Content}
    {before bytes after : List UInt8} (named : store.file? path = some content)
    (whole : content.bytes = before ++ bytes ++ after) (filled : bytes ≠ [])
    (locale : Option Locale) (category : Category) :
    ∃ region, Extent.ofRegion? store path (.ofNat before.length) (.ofNat bytes.length) =
        some region ∧
      ofExtent store region locale category = .ok ⟨region, locale, category, Region.read bytes⟩ := by
  have bounded := content.bounded
  rw [whole, List.length_append, List.length_append] at bounded
  have offset : (UInt64.ofNat before.length).toNat = before.length :=
    UInt64.toNat_ofNat_of_lt' (by omega)
  have length : (UInt64.ofNat bytes.length).toNat = bytes.length :=
    UInt64.toNat_ofNat_of_lt' (by omega)
  have within : (UInt64.ofNat before.length).toNat + (UInt64.ofNat bytes.length).toNat ≤
      content.bytes.length := by
    rw [offset, length, whole, List.length_append, List.length_append]
    omega
  let region : Extent := ⟨path, .ofNat before.length, .ofNat bytes.length, false⟩
  have taken : Extent.ofRegion? store path (.ofNat before.length) (.ofNat bytes.length) =
      some region := by
    refine Extent.ofRegion?_eq_some_iff.2 ⟨content, named, ?_, within, rfl⟩
    rw [length]
    exact List.length_pos_iff.2 filled
  have covered : region.slice content.bytes = bytes := by
    rw [Extent.slice, offset, length, whole, List.append_assoc, List.drop_left, List.take_left]
  refine ⟨region, taken, ?_⟩
  rw [ofExtent, Extent.read_of_within region named within, covered]

theorem ofExtent_file {store : FileStore} {path : FilePath} {content : Content}
    (named : store.file? path = some content) (filled : content.bytes ≠ [])
    (locale : Option Locale) (category : Category) :
    ∃ file, Extent.ofFile? store path = some file ∧
      ofExtent store file locale category =
        .ok ⟨file, locale, category, Region.read content.bytes⟩ := by
  refine ⟨_, Extent.ofFile?_eq_some_iff.2 ⟨content, named, filled, rfl⟩, ?_⟩
  rw [ofExtent, Extent.read_of_ofFile? named]

/-- Order, spelling and place make no difference to the answers. -/
theorem Reads.congr {version : UInt16} {words others : List (String × UInt8)}
    {left right : Volume} (first : left.Reads version words) (second : right.Reads version others)
    (same : ((keptOf words).map composedEntry).Perm ((keptOf others).map composedEntry)) :
    (∀ word, left.frequency? word = right.frequency? word) ∧ left.wordCount = right.wordCount := by
  by_cases supported : 2 ≤ version.toNat ∧ version.toNat ≤ 4
  · exact (first.supported supported).congr (second.supported supported) same
  · have left := first.unsupported supported
    have right := second.unsupported supported
    refine ⟨?_, left.empty.trans right.empty.symm⟩
    intro word
    rw [left.silent, right.silent]

/-- A draft with at most `2 ^ 32 - 1` kept words can be rendered, and what it renders to can be
opened wherever it stands in a file: as a region at its place and, if nothing stands around it, as
the whole file. -/
theorem reads_rendered (version : UInt16) (words : List (String × UInt8))
    (few : (keptOf words).length < 2 ^ 32) :
    ∃ bytes, (Draft.ofWords version words).render? = some bytes ∧
      (∀ (store : FileStore) (path : FilePath) (content : Content) (before after : List UInt8)
          (locale : Option Locale) (category : Category),
        store.file? path = some content → content.bytes = before ++ bytes ++ after →
          (∃ region volume,
            Extent.ofRegion? store path (.ofNat before.length) (.ofNat bytes.length) =
              some region ∧
            ofExtent store region locale category = .ok volume ∧ volume.Reads version words) ∧
          (before = [] → after = [] → ∃ file volume,
            Extent.ofFile? store path = some file ∧
            ofExtent store file locale category = .ok volume ∧ volume.Reads version words)) ∧
      (∀ (others : List (String × UInt8)) (left right : Volume),
        ((keptOf words).map composedEntry).Perm ((keptOf others).map composedEntry) →
        left.Reads version words → right.Reads version others →
          (∀ word, left.frequency? word = right.frequency? word) ∧
            left.wordCount = right.wordCount) := by
  have counted : (Draft.ofWords version words).entries.length < UInt32.size := by
    rw [Draft.length_ofWords]
    exact few
  obtain ⟨bytes, rendered⟩ : ∃ bytes, (Draft.ofWords version words).render? = some bytes :=
    ⟨_, Draft.render?_eq_some_iff.2 ⟨counted, rfl⟩⟩
  have filled : bytes ≠ [] := by
    have long := Draft.length_of_render? rendered
    exact List.length_pos_iff.1 (by omega)
  refine ⟨bytes, rendered, ?_, ?_⟩
  · intro store path content before after locale category named whole
    refine ⟨?_, ?_⟩
    · obtain ⟨region, taken, opened⟩ := ofExtent_region named whole filled locale category
      exact ⟨region, _, taken, opened, reads_of_render? rendered _ _ _⟩
    · intro noBefore noAfter
      have alone : content.bytes = bytes := by
        rw [whole, noBefore, noAfter, List.nil_append, List.append_nil]
      obtain ⟨file, taken, opened⟩ := ofExtent_file named (alone ▸ filled) locale category
      rw [alone] at opened
      exact ⟨file, _, taken, opened, reads_of_render? rendered _ _ _⟩
  · intro others left right same first second
    exact first.congr second same

/-- A word that was written twice, in the middle of a package. -/
theorem reads_rendered_in_package :
    (keptOf [("a", 5), ("b", 7), ("a", 9)]).length < 2 ^ 32 ∧
      ∃ store region volume,
        Extent.ofRegion? store ⟨"app.pkg"⟩ 2 25 = some region ∧
        ofExtent store region none .main = .ok volume ∧ volume.frequency? "a" = some 9 ∧
        volume.wordCount = 2 := by
  have few : (keptOf [("a", 5), ("b", 7), ("a", 9)]).length < 2 ^ 32 := by decide
  obtain ⟨bytes, rendered, opened, _⟩ := reads_rendered 2 [("a", 5), ("b", 7), ("a", 9)] few
  have length : bytes.length = 25 := by
    have computed : ((Draft.ofWords 2 [("a", 5), ("b", 7), ("a", 9)]).render?.map List.length) =
        some 25 := by decide
    rw [rendered] at computed
    exact Option.some.inj computed
  have bounded : ([0xAA, 0xAA] ++ bytes ++ [0xBB]).length < UInt64.size := by
    simp only [List.length_append, List.length_cons, List.length_nil, length]
    decide
  let content : Content := ⟨[0xAA, 0xAA] ++ bytes ++ [0xBB], bounded⟩
  have isName : IsName "app.pkg" := by decide
  let store : FileStore := ⟨[(["app.pkg"], .file content)], [], by simp, by simpa using isName⟩
  have named : store.file? ⟨"app.pkg"⟩ = some content := by rfl
  obtain ⟨⟨region, volume, taken, found, reads⟩, _⟩ :=
    opened store ⟨"app.pkg"⟩ content [0xAA, 0xAA] [0xBB] none .main named rfl
  have held := reads.supported (by decide)
  refine ⟨few, store, region, volume, ?_, found, ?_, ?_⟩
  · rw [← taken, length]; rfl
  · rw [held.answers]; decide
  · rw [held.counted]; decide

end Volume

end Lexicon
