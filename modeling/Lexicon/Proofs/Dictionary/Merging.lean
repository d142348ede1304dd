import Lexicon.Proofs.Dictionary.Leaves
import Lexicon.Proofs.Search.Merging
import Lexicon.Proofs.Volume.Listing

/-!
# Merged answers of a collection

What a collection suggests, in terms of what its members suggest when nothing limits them. This holds
of members of any kind, whatever they answer: words may repeat within one member and between members,
in any order and with any frequencies. Where the members are dictionaries, their words are in composed
form, so no two suggestions are spellings of one word.
-/

set_option autoImplicit false

namespace Lexicon

open Suggestion

/-- What a collection suggests whose members are of any kind and answer searches in a way of their
own. -/
def Collection.suggestionsBy {α : Type} (answers : α → String → Search → List Suggestion)
    (collection : Collection α) (query : String) (search : Search) : List Suggestion :=
  (merge (collection.members.map fun member => answers member query search.unbounded)).take
    search.limit

namespace Dictionary

theorem suggestions_eq_suggestionsBy (group : Collection Dictionary) (query : String)
    (search : Search) :
    (collection group).suggestions query search =
      group.suggestionsBy (fun member query search => member.suggestions query search) query
        search :=
  suggestions_collection query search group

/-- Only words in composed form are suggested. -/
theorem canonical_of_mem_suggestions {dictionary : Dictionary} {query : String} {search : Search}
    {suggestion : Suggestion} (among : suggestion ∈ dictionary.suggestions query search) :
    Text.canonical suggestion.word = suggestion.word := by
  induction dictionary using inductionOn generalizing query search suggestion with
  | volume single =>
    rw [suggestions, Volume.suggestions] at among
    have found := List.mem_of_mem_take among
    rw [Volume.matching_eq_filter] at found
    have listed := (perm_byFrequency _).mem_iff.1 (List.mem_filter.1 found).1
    obtain ⟨entry, held, rfl⟩ := List.mem_map.1 listed
    exact single.words.composed entry held
  | collection group ih =>
    rw [suggestions_collection] at among
    obtain ⟨index, place, ⟨list, listed, stands⟩, _⟩ :=
      ((merged_merge _).entries suggestion).1 (List.mem_of_mem_take among)
    obtain ⟨member, held, rfl⟩ := List.mem_map.1 (List.mem_of_getElem? listed)
    exact ih member held (List.mem_of_getElem? stands.stands)

/-- A collection answers with its members' answers merged, cut once to the limit of the search. It
suggests no word twice, and a collection of dictionaries no two spellings of one word. -/
theorem suggestions_merged :
    (∀ (α : Type) (answers : α → String → Search → List Suggestion) (group : Collection α)
      (query : String) (mode : MatchMode), ∃ whole,
      Merged (group.members.map fun member => answers member query ⟨Search.largestLimit, mode⟩)
        whole ∧
      ∀ limit, group.suggestionsBy answers query ⟨limit, mode⟩ = whole.take limit ∧
        (wordsOf (group.suggestionsBy answers query ⟨limit, mode⟩)).Nodup) ∧
    ∀ (group : Collection Dictionary) (query : String) (search : Search),
      (collection group).suggestions query search =
        group.suggestionsBy (fun member query search => member.suggestions query search) query
          search ∧
      (((collection group).suggestions query search).map fun suggestion =>
        Text.canonical suggestion.word).Nodup := by
  constructor
  · intro α answers group query mode
    refine ⟨_, merged_merge _, ?_⟩
    intro limit
    refine ⟨rfl, ?_⟩
    exact ((List.take_sublist _ _).map Suggestion.word).nodup (merged_merge _).distinct
  · intro group query search
    refine ⟨suggestions_eq_suggestionsBy group query search, ?_⟩
    have spelled : ((collection group).suggestions query search).map (fun suggestion =>
        Text.canonical suggestion.word) =
        wordsOf ((collection group).suggestions query search) :=
      List.map_congr_left fun suggestion among => canonical_of_mem_suggestions among
    rw [spelled, suggestions_collection]
    exact ((List.take_sublist _ _).map Suggestion.word).nodup (merged_merge _).distinct

end Dictionary

end Lexicon
