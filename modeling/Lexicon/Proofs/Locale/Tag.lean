import Mathlib.Data.Option.Basic
import Lexicon.Locale

/-!
# Display forms of locales

The display form of a locale names a directory and ends the names of files. It is plain: no slash and
no dot is in it, and it is not empty. Since an underscore separates its parts and is in neither of
them, the parts can be read back, so different locales have different display forms.
-/

set_option autoImplicit false

namespace Lexicon

namespace Locale

theorem language_plain (locale : Locale) {c : Char} (member : c ∈ locale.language.toList) :
    c ≠ '_' ∧ c ≠ '/' ∧ c ≠ '.' := by
  obtain ⟨_, lower⟩ := locale.isLanguage
  have letter := lower c member
  refine ⟨?_, ?_, ?_⟩ <;> (rintro rfl; cases letter)

theorem region_plain (code : RegionCode) {c : Char} (member : c ∈ code.val.toList) :
    c ≠ '_' ∧ c ≠ '/' ∧ c ≠ '.' := by
  obtain ⟨_, plain⟩ := code.property
  have capital := plain c member
  refine ⟨?_, ?_, ?_⟩ <;> (rintro rfl; cases capital)

theorem toList_tag_of_none {locale : Locale} (bare : locale.region = none) :
    locale.tag.toList = locale.language.toList := by
  rw [tag, bare]

theorem toList_tag_of_some {locale : Locale} {code : RegionCode}
    (regional : locale.region = some code) :
    locale.tag.toList = locale.language.toList ++ '_' :: code.val.toList := by
  have separator : "_".toList = ['_'] := rfl
  rw [tag, regional]
  dsimp only
  rw [String.toList_append, String.toList_append, separator, List.append_assoc,
    List.singleton_append]

theorem tag_plain (locale : Locale) {c : Char} (member : c ∈ locale.tag.toList) :
    c ≠ '/' ∧ c ≠ '.' := by
  cases region : locale.region with
  | none =>
    rw [toList_tag_of_none region] at member
    exact (locale.language_plain member).2
  | some code =>
    rw [toList_tag_of_some region, List.mem_append, List.mem_cons] at member
    rcases member with language | separator | code'
    · exact (locale.language_plain language).2
    · rw [separator]
      decide
    · exact (region_plain code code').2

theorem tag_ne_empty (locale : Locale) : locale.tag ≠ "" := by
  obtain ⟨filled, _⟩ := locale.isLanguage
  intro empty
  cases region : locale.region with
  | none =>
    rw [← toList_tag_of_none region, empty] at filled
    exact filled rfl
  | some code =>
    have written := toList_tag_of_some region
    rw [empty] at written
    exact List.append_ne_nil_of_left_ne_nil filled _ written.symm

/-- The parts of a display form are the language and the region. -/
theorem splitOn_tag (locale : Locale) :
    locale.tag.toList.splitOn '_' =
      locale.language.toList :: (locale.region.map fun code => code.val.toList).toList := by
  have language : '_' ∉ locale.language.toList :=
    fun member => (locale.language_plain member).1 rfl
  cases region : locale.region with
  | none =>
    rw [toList_tag_of_none region, List.splitOn_eq_singleton language, Option.map_none,
      Option.toList_none]
  | some code =>
    have plain : '_' ∉ code.val.toList := fun member => (region_plain code member).1 rfl
    rw [toList_tag_of_some region, List.splitOn_append_cons_self,
      List.splitOn_eq_singleton language, List.splitOn_eq_singleton plain, Option.map_some,
      Option.toList_some, List.singleton_append]

theorem tag_injective : Function.Injective tag := by
  intro first second same
  have parts := first.splitOn_tag
  rw [same, second.splitOn_tag, List.cons.injEq] at parts
  obtain ⟨languages, regions⟩ := parts
  obtain ⟨language, region, _⟩ := first
  obtain ⟨language', region', _⟩ := second
  have sameLanguage : language' = language := String.toList_inj.1 languages
  have sameRegion : region' = region := by
    refine Option.map_injective (f := fun code : RegionCode => code.val.toList) ?_ ?_
    · intro code code' texts
      exact Subtype.ext (String.toList_inj.1 texts)
    · apply Option.ext
      intro text
      rw [← Option.mem_toList, regions, Option.mem_toList]
  subst sameLanguage
  subst sameRegion
  rfl

def english : Locale :=
  ⟨"en", none, by simp [IsLanguage]⟩

def american : Locale :=
  ⟨"en", some ⟨"US", by simp [IsRegion, Text.isCode]⟩, by simp [IsLanguage]⟩

example : american.tag = "en_US" := rfl

end Locale

end Lexicon
