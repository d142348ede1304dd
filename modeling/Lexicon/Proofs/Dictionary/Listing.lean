import Lexicon.Proofs.Dictionary.Leaves
import Lexicon.Proofs.Volume.Listing
import Mathlib.Data.List.Permutation

/-!
# Listings of dictionaries

The listing of a dictionary is every word of its leaves, each with the entry of the first leaf that
has it, by falling frequency. However a dictionary is nested, each of its answers is what the query
accepts of the listing, cut once in the end. So all queries are views of one listing, and two
dictionaries with the same leaves cannot be told apart.

A collection asks its members for no more suggestions than a search can name. Nothing is lost by that
while a dictionary holds fewer words than 64 bits can count.
-/

set_option autoImplicit false

namespace Lexicon.Dictionary

open Suggestion

def listing (dictionary : Dictionary) : List Suggestion :=
  ranked (dictionary.leaves.flatMap Volume.listing)

def accepted (query : String) (mode : MatchMode) (dictionary : Dictionary) : List Suggestion :=
  dictionary.listing.filter fun suggestion =>
    mode.accepts suggestion.word (Text.canonical query)

theorem listing_volume (single : Volume) : (volume single).listing = single.listing := by
  rw [listing, leaves_volume, List.flatMap_singleton, Volume.ranked_listing]

theorem listing_collection (group : Collection Dictionary) :
    (collection group).listing = ranked (group.members.flatMap listing) := by
  rw [listing, leaves_collection, List.flatMap_assoc]
  exact (ranked_flatMap_ranked group.members fun member =>
    member.leaves.flatMap Volume.listing).symm

theorem length_listing_le (dictionary : Dictionary) :
    dictionary.listing.length ≤ dictionary.wordCount := by
  have each : dictionary.leaves.map (fun leaf => leaf.listing.length) =
      dictionary.leaves.map (fun leaf => leaf.words.entries.length) :=
    List.map_congr_left fun leaf _ => leaf.length_listing
  have whole := length_ranked_le (dictionary.leaves.flatMap Volume.listing)
  rw [List.length_flatMap, each, ← List.length_flatMap] at whole
  exact whole

theorem length_accepted_le (query : String) (mode : MatchMode) (dictionary : Dictionary) :
    (dictionary.accepted query mode).length ≤ dictionary.wordCount :=
  Nat.le_trans (List.length_filter_le _ _) dictionary.length_listing_le

theorem take_accepted {dictionary : Dictionary} (few : dictionary.wordCount < UInt64.size)
    (query : String) (mode : MatchMode) :
    (dictionary.accepted query mode).take Search.largestLimit =
      dictionary.accepted query mode := by
  apply List.take_of_length_le
  have bounded := dictionary.length_accepted_le query mode
  rw [Search.largestLimit]
  omega

/-- What is accepted of a collection is what is accepted of its members, merged. -/
theorem accepted_collection (query : String) (mode : MatchMode) (group : Collection Dictionary) :
    (collection group).accepted query mode = merge (group.members.map (accepted query mode)) := by
  rw [accepted, listing_collection,
    ← ranked_filter fun word => mode.accepts word (Text.canonical query), List.filter_flatMap,
    merge_eq_ranked, ← List.flatMap_def]
  rfl

/-- The limit of a search is applied once, to everything that the query accepts of the listing. -/
theorem suggestions_eq_take {dictionary : Dictionary} (few : dictionary.wordCount < UInt64.size)
    (query : String) (search : Search) :
    dictionary.suggestions query search =
      (dictionary.accepted query search.mode).take search.limit := by
  induction dictionary using inductionOn generalizing search with
  | volume single =>
    rw [suggestions, Volume.suggestions, Volume.matching_eq_filter, accepted, listing_volume]
  | collection group ih =>
    have asked : group.members.map (suggestions query search.unbounded) =
        group.members.map (accepted query search.mode) := by
      apply List.map_congr_left
      intro member among
      have memberFew := Nat.lt_of_le_of_lt (wordCount_le_of_mem among) few
      rw [ih member among memberFew, Search.unbounded_mode, Search.unbounded_limit,
        take_accepted memberFew]
    rw [suggestions_collection, asked, accepted_collection]

theorem suggestions_unlimited {dictionary : Dictionary} (few : dictionary.wordCount < UInt64.size)
    (query : String) (mode : MatchMode) :
    dictionary.suggestions query ⟨Search.largestLimit, mode⟩ =
      dictionary.accepted query mode := by
  rw [suggestions_eq_take few, take_accepted few]

theorem accepted_empty_query (dictionary : Dictionary) :
    dictionary.accepted "" .leading = dictionary.listing := by
  rw [accepted, Text.canonical_empty, List.filter_eq_self]
  intro suggestion _
  exact beginsWith_empty suggestion.word

/-! ## Views of the listing -/

/-- A query that is extended, or asked for exactly, accepts less of what it accepted. -/
theorem accepted_extended {query longer : String}
    (extends_query : beginsWith (Text.canonical longer) (Text.canonical query) = true)
    (mode : MatchMode) (dictionary : Dictionary) :
    dictionary.accepted longer mode =
      (dictionary.accepted query .leading).filter fun suggestion =>
        mode.accepts suggestion.word (Text.canonical longer) := by
  rw [accepted, accepted, List.filter_filter]
  apply List.filter_congr
  intro suggestion _
  cases found : mode.accepts suggestion.word (Text.canonical longer) with
  | false => rfl
  | true =>
    exact (beginsWith_trans (MatchMode.beginsWith_of_accepts found) extends_query).symm

/-- Every answer is a view of the answer to the empty query: what the query accepts of it, cut at the
limit. A smaller limit cuts the same list earlier, a longer query accepts a part of what the shorter
one accepts, in the same order, and an exact search finds what the other one finds for that word. -/
theorem suggestions_view_listing (dictionary : Dictionary)
    (few : dictionary.wordCount < UInt64.size) (query : String) :
    (∀ search : Search,
      dictionary.suggestions query search =
        ((dictionary.suggestions "" ⟨Search.largestLimit, .leading⟩).filter fun suggestion =>
          search.mode.accepts suggestion.word (Text.canonical query)).take search.limit) ∧
    (∀ (mode : MatchMode) (fewer limit : Nat), fewer ≤ limit →
      dictionary.suggestions query ⟨fewer, mode⟩ <+: dictionary.suggestions query ⟨limit, mode⟩) ∧
    (∀ (longer : String) (mode : MatchMode),
      beginsWith (Text.canonical longer) (Text.canonical query) = true →
      dictionary.suggestions longer ⟨Search.largestLimit, mode⟩ =
        (dictionary.suggestions query ⟨Search.largestLimit, .leading⟩).filter fun suggestion =>
          mode.accepts suggestion.word (Text.canonical longer)) ∧
    (∀ limit : Nat,
      dictionary.suggestions query ⟨limit, .exact⟩ =
        ((dictionary.suggestions query ⟨Search.largestLimit, .leading⟩).filter fun suggestion =>
          suggestion.word == Text.canonical query).take limit) := by
  refine ⟨?_, ?_, ?_, ?_⟩
  · intro search
    rw [suggestions_eq_take few, suggestions_unlimited few, accepted_empty_query, accepted]
  · intro mode fewer limit smaller
    rw [suggestions_eq_take few, suggestions_eq_take few]
    exact List.take_prefix_take_left smaller
  · intro longer mode extends_query
    rw [suggestions_unlimited few, suggestions_unlimited few]
    exact accepted_extended extends_query mode dictionary
  · intro limit
    rw [suggestions_eq_take few, suggestions_unlimited few,
      accepted_extended (beginsWith_self (Text.canonical query)) .exact]
    rfl

def volumeOf (words : List (String × Nat)) : Dictionary :=
  volume ⟨⟨⟨"words.dict"⟩, 0, 64, true⟩, none, .main, .ok (.ofList words)⟩

/-- A word that stands in a nested collection and again, more frequent, beside it. -/
def nestedPair : Collection Dictionary :=
  .ofMembers .main none
    [collection (.ofMembers .main none [volumeOf [("ha", 9), ("hb", 8), ("hello", 1)]]),
      volumeOf [("hello", 150)]]

theorem suggestions_view_listing_nestedPair :
    (collection nestedPair).wordCount < UInt64.size ∧
      (collection nestedPair).suggestions "h" ⟨2, .leading⟩ =
        [⟨"ha", 9, .main⟩, ⟨"hb", 8, .main⟩] ∧
      (collection nestedPair).suggestions "h" ⟨2, .leading⟩ =
        (((collection nestedPair).suggestions "" ⟨Search.largestLimit, .leading⟩).filter
          fun suggestion => beginsWith suggestion.word (Text.canonical "h")).take 2 := by
  have few : (collection nestedPair).wordCount < UInt64.size := by decide
  obtain ⟨views, _⟩ := suggestions_view_listing (collection nestedPair) few "h"
  exact ⟨few, by cbv, views ⟨2, .leading⟩⟩

/-! ## Nesting -/

/-- Two dictionaries that answer alike whatever they are asked. -/
structure Alike (left right : Dictionary) : Prop where
  valid : left.isValid = right.isValid
  contains : ∀ word, left.contains word = right.contains word
  frequency : ∀ word, left.frequency? word = right.frequency? word
  suggestions : ∀ query search, left.suggestions query search = right.suggestions query search

theorem alike_of_leaves_eq {left right : Dictionary} (same : left.leaves = right.leaves)
    (few : left.wordCount < UInt64.size) : Alike left right := by
  have alsoFew : right.wordCount < UInt64.size := by
    rw [wordCount, ← same]
    exact few
  constructor
  · rw [isValid_eq_any, isValid_eq_any, same]
  · intro word
    rw [contains_eq_any, contains_eq_any, same]
  · intro word
    rw [frequency?_eq_max?, frequency?_eq_max?, same]
  · intro query search
    rw [suggestions_eq_take few, suggestions_eq_take alsoFew, accepted, accepted, listing, listing,
      same]

/-- A collection answers as the one that holds its leaves side by side, and a collection of one
dictionary as that dictionary. -/
theorem alike_unnested (category : Category) (locale : Option Locale) :
    (∀ group : Collection Dictionary, (collection group).wordCount < UInt64.size →
      Alike (collection group)
        (collection (gathering category locale (collection group).leaves)) ∧
      ∀ word, group.largestFrequency? word =
        (gathering category locale (collection group).leaves).largestFrequency? word) ∧
    ∀ dictionary : Dictionary, dictionary.wordCount < UInt64.size →
      Alike (collection (.ofMembers category locale [dictionary])) dictionary := by
  constructor
  · intro group few
    have alike : Alike (collection group)
        (collection (gathering category locale (collection group).leaves)) :=
      alike_of_leaves_eq (leaves_gathering category locale _).symm few
    refine ⟨alike, ?_⟩
    intro word
    have same := alike.frequency word
    rw [frequency?_collection, frequency?_collection] at same
    exact same
  · intro dictionary few
    have same := leaves_single category locale dictionary
    apply alike_of_leaves_eq same
    rw [wordCount, same]
    exact few

theorem alike_unnested_nestedPair :
    (collection nestedPair).wordCount < UInt64.size ∧
      (collection nestedPair).leaves.length = 2 ∧
      Alike (collection nestedPair)
        (collection (gathering .main none (collection nestedPair).leaves)) ∧
      Alike (collection (.ofMembers .main none [collection nestedPair]))
        (collection nestedPair) := by
  have few : (collection nestedPair).wordCount < UInt64.size := by decide
  obtain ⟨flat, single⟩ := alike_unnested .main none
  exact ⟨few, by decide, (flat nestedPair few).1, single (collection nestedPair) few⟩

end Lexicon.Dictionary
