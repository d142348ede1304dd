import Lexicon.Proofs.Search.Ranking
import Lexicon.Proofs.WordTable.Lookup
import Lexicon.Proofs.WordTable.Scan
import Lexicon.Volume

/-!
# Listings of volumes

The listing of a volume is every word it holds, by falling frequency. Whatever is asked of the volume,
its answer is what the query accepts of the listing.
-/

set_option autoImplicit false

namespace Lexicon

open Suggestion

namespace Volume

def entrySuggestion (volume : Volume) (entry : String × Nat) : Suggestion :=
  ⟨entry.1, entry.2, volume.category⟩

def listing (volume : Volume) : List Suggestion :=
  byFrequency (volume.words.entries.map volume.entrySuggestion)

theorem length_listing (volume : Volume) : volume.listing.length = volume.wordCount := by
  rw [listing, (perm_byFrequency _).length_eq, List.length_map]
  rfl

theorem nodup_entries (volume : Volume) :
    (wordsOf (volume.words.entries.map volume.entrySuggestion)).Nodup := by
  rw [wordsOf, List.map_map]
  exact volume.words.nodup_words

theorem nodup_listing (volume : Volume) : (wordsOf volume.listing).Nodup :=
  ((perm_byFrequency _).map Suggestion.word).nodup_iff.2 volume.nodup_entries

theorem mem_listing {volume : Volume} {suggestion : Suggestion} :
    suggestion ∈ volume.listing ↔
      (suggestion.word, suggestion.frequency) ∈ volume.words.entries ∧
        suggestion.source = volume.category := by
  rw [listing, (perm_byFrequency _).mem_iff, List.mem_map]
  constructor
  · rintro ⟨entry, held, rfl⟩
    exact ⟨held, rfl⟩
  · intro ⟨held, source⟩
    refine ⟨_, held, ?_⟩
    rw [entrySuggestion, ← source]

theorem ranked_listing (volume : Volume) : ranked volume.listing = volume.listing :=
  ranked_of_falling volume.nodup_listing (falling_byFrequency _)

/-- An exact search finds one suggestion at most, so there is nothing to sort. -/
private theorem falling_of_one_word {suggestions : List Suggestion} {word : String}
    (distinct : (wordsOf suggestions).Nodup)
    (one : ∀ suggestion ∈ suggestions, suggestion.word = word) : Falling suggestions := by
  have apart := List.pairwise_map.1 distinct
  apply apart.imp_of_mem
  intro first second among alsoAmong different
  exact absurd ((one first among).trans (one second alsoAmong).symm) different

theorem matching_eq_filter (volume : Volume) (query : String) (mode : MatchMode) :
    volume.matching query mode = volume.listing.filter fun suggestion =>
      mode.accepts suggestion.word (Text.canonical query) := by
  have found : (volume.words.matching query mode).map volume.entrySuggestion =
      (volume.words.entries.map volume.entrySuggestion).filter fun suggestion =>
        mode.accepts suggestion.word (Text.canonical query) := by
    rw [WordTable.matching_eq_filter, List.filter_map]
    rfl
  rw [listing, ← byFrequency_filter, ← found]
  cases mode with
  | leading => rfl
  | exact =>
    have falling : Falling ((volume.words.matching query .exact).map volume.entrySuggestion) := by
      rw [found]
      apply falling_of_one_word
      · exact (List.filter_sublist.map Suggestion.word).nodup volume.nodup_entries
      · intro suggestion among
        exact eq_of_beq (List.mem_filter.1 among).2
    exact (byFrequency_of_falling falling).symm

end Volume

end Lexicon
