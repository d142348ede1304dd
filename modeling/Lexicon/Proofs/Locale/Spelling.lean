import Lexicon.Json.Tags
import Lexicon.Proofs.Json.Quoted
import Lexicon.Proofs.Locale.Grammar
import Lexicon.Proofs.Storage.Listing
import Lexicon.Proofs.Text.Casing

/-!
# Spellings of locales

A locale can be written in many ways: its parts in any case, with blanks around them, and with either
separator between them. All of them are read back as that locale. Its display form and the endings of
its resource names are among them, so no two locales share any of these.
-/

set_option autoImplicit false

namespace Lexicon.Locale

open Text

/-! ## Ways to write a locale -/

/-- A part is written in any case, with blanks around it. -/
def Writes (part name : String) : Prop :=
  ∃ before spelled after, AllBlank before ∧ AllBlank after ∧ SameName spelled name ∧
    part = before ++ spelled ++ after

/-- The parts of a locale are written with either separator between them. -/
inductive Spells (locale : Locale) : String → Prop where
  | bare {text : String} : locale.region = none → Writes text locale.language → Spells locale text
  | regional {code : RegionCode} {language region : String} {separator : Char} :
      locale.region = some code → Writes language locale.language → Writes region code.val →
      isSeparator separator = true →
      Spells locale (language ++ String.singleton separator ++ region)

theorem writes_of_sameName {part name : String} (same : SameName part name) : Writes part name :=
  ⟨"", part, "", by simp [AllBlank], by simp [AllBlank], same, by simp⟩

theorem Writes.padded {part name before after : String} (writes : Writes part name)
    (blank : AllBlank before) (blank' : AllBlank after) : Writes (before ++ part ++ after) name := by
  obtain ⟨inner, spelled, inner', allBlank, allBlank', same, rfl⟩ := writes
  refine ⟨before ++ inner, spelled, inner' ++ after, ?_, ?_, same, ?_⟩
  · intro c member
    rcases List.mem_append.1 (String.toList_append ▸ member) with outer | inner
    · exact blank c outer
    · exact allBlank c inner
  · intro c member
    rcases List.mem_append.1 (String.toList_append ▸ member) with inner | outer
    · exact allBlank' c inner
    · exact blank' c outer
  · simp only [String.append_assoc]

/-! ## Parts are read back -/

theorem isSeparator_of_isAlphanum {c : Char} (plain : c.isAlphanum = true) :
    isSeparator c = false := by
  rw [isSeparator, Bool.or_eq_false_iff, beq_eq_false_iff_ne, beq_eq_false_iff_ne]
  constructor <;> (rintro rfl; cases plain)

theorem standsPlain_of_isAlphanum {c : Char} (plain : c.isAlphanum = true) :
    Json.StandsPlain c := by
  refine ⟨?_, ?_, ?_⟩
  · rw [Char.isAlphanum, Bool.or_eq_true, isAlpha_iff, isUpper_iff, isLower_iff,
      isDigit_iff] at plain
    omega
  · rintro rfl
    cases plain
  · rintro rfl
    cases plain

theorem isSeparator_of_isBlank {c : Char} (blank : isBlank c = true) : isSeparator c = false := by
  rw [← Bool.not_eq_true]
  intro separates
  rw [isBlank_of_isSeparator separates] at blank
  cases blank

-- No part of a locale holds a blank or a separator, so what is put around a part can be told from it.
section Writes

variable {part name : String} (writes : Writes part name)
  (plain : ∀ c ∈ name.toList, c.isAlphanum = true)

include writes plain

theorem Writes.sameName_trim : SameName (trim part) name := by
  obtain ⟨before, spelled, after, blank, blank', same, rfl⟩ := writes
  have inked := same.forall_isAlphanum plain
  have trimmed : IsTrimmed spelled := by
    rintro c (first | last)
    · exact isBlank_of_isAlphanum (inked c (List.mem_of_head? first))
    · exact isBlank_of_isAlphanum (inked c (List.mem_of_getLast? last))
  have left_over : trim (before ++ spelled ++ after) = spelled :=
    trim_eq_iff.2 ⟨trimmed, before, after, blank, blank', rfl⟩
  rw [left_over]
  exact same

theorem Writes.isUndivided : IsUndivided part := by
  obtain ⟨before, spelled, after, blank, blank', same, rfl⟩ := writes
  have inked := same.forall_isAlphanum plain
  intro c member
  rw [String.toList_append, String.toList_append, List.mem_append, List.mem_append] at member
  rcases member with (start | inner) | ending
  · exact isSeparator_of_isBlank (blank c start)
  · exact isSeparator_of_isAlphanum (inked c inner)
  · exact isSeparator_of_isBlank (blank' c ending)

end Writes

theorem isAlpha_language (locale : Locale) {c : Char} (member : c ∈ locale.language.toList) :
    c.isAlpha = true :=
  (isAlpha_iff c).2 (.inr (locale.isLanguage.2 c member))

theorem isAlphanum_language (locale : Locale) {c : Char} (member : c ∈ locale.language.toList) :
    c.isAlphanum = true := by
  rw [Char.isAlphanum, locale.isAlpha_language member, Bool.true_or]

theorem isAlphanum_region (code : RegionCode) {c : Char} (member : c ∈ code.val.toList) :
    c.isAlphanum = true := by
  have capital := code.property.2 c member
  rw [isCode, Bool.or_eq_true] at capital
  rw [Char.isAlphanum, Bool.or_eq_true, isAlpha_iff]
  rcases capital with upper | digit
  · exact .inl (.inl upper)
  · exact .inr digit

theorem lowered_language (locale : Locale) : lowered locale.language = locale.language := by
  rw [← String.toList_inj, toList_lowered]
  refine (List.map_congr_left ?_).trans (List.map_id' _)
  intro c member
  have lower := locale.isLanguage.2 c member
  rw [isLower_iff] at lower
  rw [← Char.toNat_inj, toNat_toLower, if_neg]
  rw [isUpper_iff]
  omega

theorem raised_region (code : RegionCode) : raised code.val = code.val := by
  rw [← String.toList_inj, toList_raised]
  refine (List.map_congr_left ?_).trans (List.map_id' _)
  intro c member
  have capital := code.property.2 c member
  rw [isCode, Bool.or_eq_true, isUpper_iff, isDigit_iff] at capital
  rw [← Char.toNat_inj, toNat_toUpper, if_neg]
  rw [isLower_iff]
  omega

theorem composes_of_writes {locale : Locale} {language : String} {region : Option String}
    (writes : Writes language locale.language) (named : NamesRegion region locale.region) :
    Composes language region locale := by
  have same := writes.sameName_trim fun c member => locale.isAlphanum_language member
  have filled : locale.language ≠ "" := fun empty =>
    locale.isLanguage.1 (String.toList_eq_nil_iff.2 empty)
  refine ⟨⟨?_, ?_⟩, ?_, named⟩
  · rw [Ne, same.eq_empty_iff]
    exact filled
  · exact same.forall_isAlpha fun c member => locale.isAlpha_language member
  · rw [lowered_eq_lowered_iff.2 same, lowered_language]

theorem namesRegion_of_writes {code : RegionCode} {part : String} (writes : Writes part code.val) :
    NamesRegion (some part) (some code) := by
  have same := writes.sameName_trim fun c member => isAlphanum_region code member
  have filled : code.val ≠ "" := fun empty =>
    code.property.1 (String.toList_eq_nil_iff.2 empty)
  refine .given ?_ ?_ ?_
  · rw [Ne, same.eq_empty_iff]
    exact filled
  · exact same.forall_isAlphanum fun c member => isAlphanum_region code member
  · rw [raised_eq_raised_iff.2 same, raised_region]

theorem parse_of_spells {locale : Locale} {text : String} (spells : Spells locale text) :
    parse text = .ok locale := by
  cases spells with
  | bare alone writes =>
    have undivided := writes.isUndivided fun c member => locale.isAlphanum_language member
    rw [parse_divided (.whole undivided), ofParts_eq_ok_iff]
    exact composes_of_writes writes (alone ▸ .absent)
  | @regional code language region separator given writes writes' separates =>
    have plain := writes.isUndivided fun c member => locale.isAlphanum_language member
    have plain' := writes'.isUndivided fun c member => isAlphanum_region code member
    rw [parse_divided (.apart plain plain' separates), ofParts_eq_ok_iff]
    exact composes_of_writes writes (given ▸ namesRegion_of_writes writes')

/-! ## Forms of a locale -/

theorem Spells.padded {locale : Locale} {text before after : String} (spells : Spells locale text)
    (blank : AllBlank before) (blank' : AllBlank after) :
    Spells locale (before ++ text ++ after) := by
  have nothing : AllBlank "" := by simp [AllBlank]
  cases spells with
  | bare alone writes => exact .bare alone (writes.padded blank blank')
  | @regional code language region separator given writes writes' separates =>
    have outer := writes.padded blank nothing
    have outer' := writes'.padded nothing blank'
    have spelled := Spells.regional given outer outer' separates
    simpa only [String.append_empty, String.empty_append, String.append_assoc] using spelled

theorem spells_of_sameName {locale : Locale} {text : String} (same : SameName text locale.tag) :
    Spells locale text := by
  cases region : locale.region with
  | none =>
    rw [tag, region] at same
    exact .bare region (writes_of_sameName same)
  | some code =>
    have written : locale.tag = locale.language ++ String.singleton '_' ++ code.val := by
      rw [tag, region]
      rfl
    rw [written] at same
    obtain ⟨start, second, rfl, starts, second_same⟩ := same.exists_append
    obtain ⟨first, separator, rfl, first_same, separates⟩ := starts.exists_append
    rw [separates.eq_singleton rfl]
    exact .regional region (writes_of_sameName first_same) (writes_of_sameName second_same) rfl

/-- The text with hyphens in place of its underscores. -/
def hyphenated (text : String) : String :=
  String.ofList (text.toList.map fun c => if c = '_' then '-' else c)

theorem spells_hyphenated (locale : Locale) : Spells locale (hyphenated locale.tag) := by
  have kept : ∀ cs : List Char, (∀ c ∈ cs, c ≠ '_') →
      cs.map (fun c => if c = '_' then '-' else c) = cs := by
    intro cs plain
    refine (List.map_congr_left ?_).trans (List.map_id' _)
    intro c member
    exact if_neg (plain c member)
  have language := kept locale.language.toList fun c member => (locale.language_plain member).1
  cases region : locale.region with
  | none =>
    rw [hyphenated, toList_tag_of_none region, language, String.ofList_toList]
    exact .bare region (writes_of_sameName (.refl _))
  | some code =>
    have capitals := kept code.val.toList fun c member => (region_plain code member).1
    have spelled : hyphenated locale.tag =
        locale.language ++ String.singleton '-' ++ code.val := by
      rw [hyphenated, toList_tag_of_some region, List.map_append, List.map_cons, language, capitals,
        ← String.toList_inj]
      simp
    rw [spelled]
    exact .regional region (writes_of_sameName (.refl _)) (writes_of_sameName (.refl _)) rfl

theorem parse_tag (locale : Locale) : parse locale.tag = .ok locale :=
  parse_of_spells (spells_of_sameName (.refl _))

/-- The locale of the language alone. -/
def general (locale : Locale) : Locale :=
  { locale with region := none }

theorem exists_first_suffix (locale : Locale) :
    ∃ first, locale.suffixes.head? = some first ∧ parse first = .ok locale := by
  cases region : locale.region with
  | none =>
    refine ⟨locale.tag, ?_, locale.parse_tag⟩
    rw [suffixes, tag, region]
    rfl
  | some code =>
    refine ⟨locale.language ++ "_" ++ lowered code.val, by rw [suffixes, region]; rfl, ?_⟩
    apply parse_of_spells
    apply spells_of_sameName
    have written : locale.tag = locale.language ++ "_" ++ code.val := by rw [tag, region]
    rw [written]
    exact (SameName.refl _).append (sameName_lowered code.val)

theorem exists_last_suffix (locale : Locale) :
    ∃ last, locale.suffixes.getLast? = some last ∧ parse last = .ok locale.general := by
  refine ⟨locale.general.tag, ?_, parse_tag _⟩
  rw [suffixes]
  cases locale.region <;> rfl

theorem suffixes_injective : Function.Injective suffixes := by
  intro left right same
  obtain ⟨first, leads, read⟩ := left.exists_first_suffix
  obtain ⟨other, alsoLeads, alsoRead⟩ := right.exists_first_suffix
  rw [same, alsoLeads] at leads
  cases leads
  rw [read] at alsoRead
  exact Except.ok.inj alsoRead

/-! ## Where display forms are used -/

theorem ofJson_toJson (locale : Locale) : ofJson locale.toJson = .ok locale := by
  rw [toJson, ofJson, parse_tag]
  rfl

theorem ofBytes?_quoted_tag (locale : Locale) :
    Json.ofBytes? (encodeUtf8 (Json.quoted locale.tag)) = some locale.toJson := by
  apply Json.ofBytes?_quoted
  intro c member
  cases region : locale.region with
  | none =>
    rw [toList_tag_of_none region] at member
    exact standsPlain_of_isAlphanum (locale.isAlphanum_language member)
  | some code =>
    rw [toList_tag_of_some region, List.mem_append, List.mem_cons] at member
    rcases member with language | rfl | capital
    · exact standsPlain_of_isAlphanum (locale.isAlphanum_language language)
    · exact ⟨by decide, by decide, by decide⟩
    · exact standsPlain_of_isAlphanum (isAlphanum_region code capital)

theorem components_tag (locale : Locale) :
    (Storage.FilePath.mk locale.tag).components = [.name locale.tag] := by
  have no_slash : '/' ∉ locale.tag.toList := fun member => (locale.tag_plain member).1 rfl
  have no_dot : '.' ∉ locale.tag.toList := fun member => (locale.tag_plain member).2 rfl
  have named : Storage.FilePath.Component.ofStep? locale.tag = some (.name locale.tag) := by
    unfold Storage.FilePath.Component.ofStep?
    split
    · next empty => exact absurd empty locale.tag_ne_empty
    · next dot => simp [dot] at no_dot
    · next dots => simp [dots] at no_dot
    · rfl
  have other : locale.tag ≠ "." := by
    intro dot
    simp [dot] at no_dot
  rw [Storage.FilePath.components, Storage.FilePath.steps_of_no_slash no_slash,
    Storage.FilePath.isAbsolute_of_no_slash no_slash]
  simp [named, other]

/-- A locale and what is read back as it. -/
structure ReadsBack (locale : Locale) : Prop where
  language : locale.language ≠ "" ∧ ∀ c ∈ locale.language.toList, 'a' ≤ c ∧ c ≤ 'z'
  region : ∀ code, locale.region = some code →
    code.val ≠ "" ∧ ∀ c ∈ code.val.toList, ('A' ≤ c ∧ c ≤ 'Z') ∨ ('0' ≤ c ∧ c ≤ '9')
  given : ∃ language region, ofParts language region = .ok locale
  displayed : parse locale.tag = .ok locale
  hyphenated : parse (hyphenated locale.tag) = .ok locale
  cased : ∀ text, SameName text locale.tag → parse text = .ok locale
  padded : ∀ before after, AllBlank before → AllBlank after →
    parse (before ++ locale.tag ++ after) = .ok locale
  spelled : ∀ text, Spells locale text → parse text = .ok locale
  json : ofJson locale.toJson = .ok locale
  jsonText : Json.ofBytes? (encodeUtf8 (Json.quoted locale.tag)) = some locale.toJson
  firstSuffix : ∃ first, locale.suffixes.head? = some first ∧ parse first = .ok locale
  lastSuffix : ∃ last, locale.suffixes.getLast? = some last ∧ parse last = .ok locale.general
  component : (Storage.FilePath.mk locale.tag).components = [.name locale.tag]
  notDots : locale.tag ≠ "." ∧ locale.tag ≠ ".."

theorem exists_ofParts (locale : Locale) :
    ∃ language region, ofParts language region = .ok locale := by
  obtain ⟨language, region, _, composes⟩ := parse_eq_ok_iff.1 locale.parse_tag
  exact ⟨language, region, ofParts_eq_ok_iff.2 composes⟩

theorem readsBack (locale : Locale) : ReadsBack locale where
  language := by
    obtain ⟨filled, lower⟩ := locale.isLanguage
    refine ⟨fun empty => filled (String.toList_eq_nil_iff.2 empty), ?_⟩
    intro c member
    exact (isLower_iff c).1 (lower c member)
  region := by
    intro code _
    obtain ⟨filled, capital⟩ := code.property
    refine ⟨fun empty => filled (String.toList_eq_nil_iff.2 empty), ?_⟩
    intro c member
    have allowed := capital c member
    rw [isCode, Bool.or_eq_true, isUpper_iff, isDigit_iff] at allowed
    exact allowed
  given := locale.exists_ofParts
  displayed := locale.parse_tag
  hyphenated := parse_of_spells locale.spells_hyphenated
  cased _ same := parse_of_spells (spells_of_sameName same)
  padded _ _ blank blank' :=
    parse_of_spells ((spells_of_sameName (.refl _)).padded blank blank')
  spelled _ := parse_of_spells
  json := locale.ofJson_toJson
  jsonText := locale.ofBytes?_quoted_tag
  firstSuffix := locale.exists_first_suffix
  lastSuffix := locale.exists_last_suffix
  component := locale.components_tag
  notDots := by
    constructor <;>
    · intro dots
      exact (locale.tag_plain (c := '.') (by simp [dots])).2 rfl

/-- Every locale is in canonical form and is read back from its display form, from every other way to
write it, from JSON and from the endings of its resource names; so locales with one display form, or
with the same endings, are the same. -/
theorem reads_back (locale : Locale) :
    ReadsBack locale ∧ ∀ other : Locale,
      (locale = other ↔ locale.tag = other.tag) ∧
      (locale = other ↔ locale.suffixes = other.suffixes) := by
  refine ⟨locale.readsBack, ?_⟩
  intro other
  exact ⟨tag_injective.eq_iff.symm, suffixes_injective.eq_iff.symm⟩

theorem reads_back_american :
    SameName "EN_us" american.tag ∧ parse "EN_us" = .ok american ∧
      Spells american "\ten -us" ∧ parse "\ten -us" = .ok american ∧ american ≠ english := by
  obtain ⟨readsBack, unique⟩ := reads_back american
  obtain ⟨sameTags, _⟩ := unique english
  have cased : SameName "EN_us" american.tag := by decide
  have language : Writes "\ten " american.language :=
    ⟨"\t", "en", " ", by simp [AllBlank, isBlank], by simp [AllBlank, isBlank], .refl _, rfl⟩
  have region : Writes "us" "US" := writes_of_sameName (by decide)
  have given : american.region = some ⟨"US", by simp [IsRegion, isCode]⟩ := rfl
  have hyphen : isSeparator '-' = true := rfl
  have spelled : Spells american "\ten -us" := .regional given language region hyphen
  refine ⟨cased, readsBack.cased _ cased, spelled, readsBack.spelled _ spelled, ?_⟩
  intro same
  have tags := sameTags.1 same
  simp [tag, american, english] at tags

end Lexicon.Locale
