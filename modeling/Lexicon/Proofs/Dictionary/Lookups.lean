import Lexicon.Proofs.Dictionary.Listing
import Lexicon.Proofs.Dictionary.Merging
import Mathlib.Order.Bounds.Defs

/-!
# Lookups in a dictionary

Whether a word is held, how frequent it is and what is suggested for it are answered along different
ways, and of a word that stands in several leaves a suggestion and a frequency may name different
entries. All three answers are told here by the same thing, the frequencies that the tables of the
leaves give to a word, and so they never contradict each other.
-/

set_option autoImplicit false

namespace Lexicon.Dictionary

open Suggestion

/-- A frequency stands beside a word in the table of some leaf. -/
def Gives (dictionary : Dictionary) (word : String) (frequency : Nat) : Prop :=
  ∃ leaf ∈ dictionary.leaves, (Text.canonical word, frequency) ∈ leaf.words.entries

theorem gives_congr {word other : String} (same : Text.Equivalent word other)
    (dictionary : Dictionary) (frequency : Nat) :
    dictionary.Gives word frequency ↔ dictionary.Gives other frequency := by
  have composed : Text.canonical word = Text.canonical other := same
  rw [Gives, Gives, composed]

theorem mem_leafFrequencies {dictionary : Dictionary} {word : String} {frequency : Nat} :
    (frequency ∈ dictionary.leaves.filterMap fun leaf => leaf.frequency? word) ↔
      dictionary.Gives word frequency := by
  rw [List.mem_filterMap, Gives]
  simp only [Volume.frequency?, WordTable.frequency?_eq_some_iff]

/-- A single volume holds a word at most once. -/
theorem gives_volume_unique {single : Volume} {word : String} {first second : Nat}
    (given : (volume single).Gives word first) (alsoGiven : (volume single).Gives word second) :
    first = second := by
  obtain ⟨leaf, among, held⟩ := given
  obtain ⟨other, alsoAmong, alsoHeld⟩ := alsoGiven
  rw [leaves_volume, List.mem_singleton] at among alsoAmong
  subst among alsoAmong
  have found := WordTable.frequency?_eq_some_iff.2 held
  rw [WordTable.frequency?_eq_some_iff.2 alsoHeld] at found
  exact (Option.some.inj found).symm

/-! ## Membership and frequency -/

theorem frequency?_eq_some_iff {dictionary : Dictionary} {word : String} {frequency : Nat} :
    dictionary.frequency? word = some frequency ↔
      IsGreatest {given | dictionary.Gives word given} frequency := by
  rw [frequency?_eq_max?, List.max?_eq_some_iff]
  simp only [mem_leafFrequencies]
  rfl

theorem frequency?_isSome_iff {dictionary : Dictionary} {word : String} :
    (dictionary.frequency? word).isSome = true ↔ ∃ frequency, dictionary.Gives word frequency := by
  rw [frequency?_eq_max?, Option.isSome_iff_ne_none, Ne, List.max?_eq_none_iff,
    List.eq_nil_iff_forall_not_mem]
  simp only [mem_leafFrequencies, not_forall, not_not]

theorem contains_iff {dictionary : Dictionary} {word : String} :
    dictionary.contains word = true ↔ ∃ frequency, dictionary.Gives word frequency := by
  rw [contains_eq_any, List.any_eq_true]
  constructor
  · rintro ⟨leaf, among, held⟩
    obtain ⟨frequency, found⟩ := Option.isSome_iff_exists.1 held
    exact ⟨frequency, leaf, among, WordTable.frequency?_eq_some_iff.1 found⟩
  · rintro ⟨frequency, leaf, among, held⟩
    refine ⟨leaf, among, Option.isSome_iff_exists.2 ⟨frequency, ?_⟩⟩
    exact WordTable.frequency?_eq_some_iff.2 held

/-! ## Suggestions -/

theorem mem_wordsOf_listing {dictionary : Dictionary} {word : String} :
    word ∈ wordsOf dictionary.listing ↔
      ∃ leaf ∈ dictionary.leaves, ∃ frequency, (word, frequency) ∈ leaf.words.entries := by
  rw [listing, mem_wordsOf_ranked, wordsOf, List.mem_map]
  constructor
  · rintro ⟨suggestion, listed, rfl⟩
    obtain ⟨leaf, among, held⟩ := List.mem_flatMap.1 listed
    exact ⟨leaf, among, suggestion.frequency, (Volume.mem_listing.1 held).1⟩
  · rintro ⟨leaf, among, frequency, held⟩
    have listed : (⟨word, frequency, leaf.category⟩ : Suggestion) ∈ leaf.listing :=
      Volume.mem_listing.2 ⟨held, rfl⟩
    exact ⟨_, List.mem_flatMap.2 ⟨leaf, among, listed⟩, rfl⟩

theorem gives_of_mem_listing {dictionary : Dictionary} {suggestion : Suggestion}
    (listed : suggestion ∈ dictionary.listing) :
    dictionary.Gives suggestion.word suggestion.frequency := by
  have first := (perm_byFrequency _).mem_iff.1 listed
  obtain ⟨place, stands⟩ := mem_firstOfEach_iff.1 first
  obtain ⟨leaf, among, held⟩ := List.mem_flatMap.1 (List.mem_of_getElem? stands.stands)
  have entry := (Volume.mem_listing.1 held).1
  have composed := leaf.words.composed _ entry
  refine ⟨leaf, among, ?_⟩
  rw [composed]
  exact entry

theorem gives_of_mem_suggestions {dictionary : Dictionary}
    (few : dictionary.wordCount < UInt64.size) {query : String} {search : Search}
    {suggestion : Suggestion} (suggested : suggestion ∈ dictionary.suggestions query search) :
    dictionary.Gives suggestion.word suggestion.frequency := by
  rw [suggestions_eq_take few] at suggested
  exact gives_of_mem_listing (List.mem_filter.1 (List.mem_of_mem_take suggested)).1

theorem suggestions_exact_ne_nil_iff {dictionary : Dictionary}
    (few : dictionary.wordCount < UInt64.size) {word : String} {limit : Nat} (wanted : 1 ≤ limit) :
    dictionary.suggestions word ⟨limit, .exact⟩ ≠ [] ↔
      ∃ frequency, dictionary.Gives word frequency := by
  have named : dictionary.accepted word .exact ≠ [] ↔
      Text.canonical word ∈ wordsOf dictionary.listing := by
    rw [accepted, Ne, List.filter_eq_nil_iff, wordsOf, List.mem_map]
    simp only [MatchMode.accepts, beq_iff_eq, not_forall, not_not, exists_prop]
  have uncut : limit ≠ 0 := by omega
  rw [suggestions_eq_take few, Ne, List.take_eq_nil_iff, not_or, and_iff_right uncut, ← Ne, named,
    mem_wordsOf_listing]
  constructor
  · rintro ⟨leaf, among, frequency, held⟩
    exact ⟨frequency, leaf, among, held⟩
  · rintro ⟨frequency, leaf, among, held⟩
    exact ⟨leaf, among, frequency, held⟩

theorem suggestions_congr {word other : String} (same : Text.Equivalent word other)
    {dictionary : Dictionary} (few : dictionary.wordCount < UInt64.size) (search : Search) :
    dictionary.suggestions word search = dictionary.suggestions other search := by
  have composed : Text.canonical word = Text.canonical other := same
  rw [suggestions_eq_take few, suggestions_eq_take few, accepted, accepted, composed]

/-! ## Agreement -/

/-- The lookups agree. A word is held exactly if it has a frequency and exactly if it is suggested when
it is asked for; its frequency is the largest that a leaf gives it, which no suggestion exceeds; and a
word is the same as every other spelling of it. -/
theorem lookups_agree (dictionary : Dictionary) (few : dictionary.wordCount < UInt64.size) :
    (∀ word,
      (dictionary.contains word = true ↔ (dictionary.frequency? word).isSome = true) ∧
      ∀ limit, 1 ≤ limit → (dictionary.contains word = true ↔
        dictionary.suggestions word ⟨limit, .exact⟩ ≠ [])) ∧
    (∀ word frequency, dictionary.frequency? word = some frequency ↔
      IsGreatest {given | dictionary.Gives word given} frequency) ∧
    (∀ query search, ∀ suggestion ∈ dictionary.suggestions query search,
      ∃ frequency, dictionary.frequency? suggestion.word = some frequency ∧
        suggestion.frequency ≤ frequency ∧
        ∀ single, dictionary = volume single → suggestion.frequency = frequency) ∧
    ∀ word other, Text.Equivalent word other →
      dictionary.contains word = dictionary.contains other ∧
      dictionary.frequency? word = dictionary.frequency? other ∧
      ∀ search, dictionary.suggestions word search = dictionary.suggestions other search := by
  refine ⟨?_, ?_, ?_, ?_⟩
  · intro word
    rw [frequency?_isSome_iff, contains_iff]
    refine ⟨Iff.rfl, ?_⟩
    intro limit wanted
    exact (suggestions_exact_ne_nil_iff few wanted).symm
  · intro word frequency
    exact frequency?_eq_some_iff
  · intro query search suggestion suggested
    have given := gives_of_mem_suggestions few suggested
    obtain ⟨frequency, found⟩ :=
      Option.isSome_iff_exists.1 (frequency?_isSome_iff.2 ⟨_, given⟩)
    have greatest := frequency?_eq_some_iff.1 found
    refine ⟨frequency, found, greatest.2 given, ?_⟩
    rintro single rfl
    exact gives_volume_unique given greatest.1
  · intro word other same
    refine ⟨?_, ?_, ?_⟩
    · rw [Bool.eq_iff_iff, contains_iff, contains_iff]
      simp only [gives_congr same]
    · apply Option.ext
      intro frequency
      rw [frequency?_eq_some_iff, frequency?_eq_some_iff]
      simp only [gives_congr same]
    · intro search
      exact suggestions_congr same few search

/-- A suggestion from one leaf, less frequent than the entry that another leaf has for its word. -/
theorem lookups_agree_nestedPair :
    (collection nestedPair).wordCount < UInt64.size ∧ 1 ≤ 5 ∧
      (collection nestedPair).suggestions "hello" ⟨5, .exact⟩ = [⟨"hello", 1, .main⟩] ∧
      (collection nestedPair).contains "hello" = true ∧
      IsGreatest {given | (collection nestedPair).Gives "hello" given} 150 := by
  have few : (collection nestedPair).wordCount < UInt64.size := by decide
  have suggested : (collection nestedPair).suggestions "hello" ⟨5, .exact⟩ =
      [⟨"hello", 1, .main⟩] := by cbv
  have found : (collection nestedPair).frequency? "hello" = some 150 := by decide
  obtain ⟨held, greatest, _⟩ := lookups_agree (collection nestedPair) few
  refine ⟨few, by decide, suggested, ?_, (greatest "hello" 150).1 found⟩
  apply ((held "hello").2 5 (by decide)).2
  rw [suggested]
  exact List.cons_ne_nil _ _

end Lexicon.Dictionary
