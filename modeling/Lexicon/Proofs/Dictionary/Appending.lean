import Lexicon.Proofs.Collection.Ledger
import Lexicon.Proofs.Dictionary.Listing

/-!
# Appending to a collection

A member that is added to a collection only adds to its answers. Whatever the collection suggested
before keeps its entries and their order, the rest is what the new member suggests of other words, and
no frequency falls. Taking the member off again restores the collection.

The new entries may stand anywhere between the former ones, since all are in one order of frequency. So
the answer is split by word, not by place.
-/

set_option autoImplicit false

namespace Lexicon

theorem Collection.detach?_add {α : Type} {collection : Collection α}
    (unclosed : collection.isClosed = false) (member : α) :
    (collection.add member).1.detach? collection.size = some (member, collection) := by
  have last : (collection.members ++ [member]).eraseIdx collection.members.length =
      collection.members := by
    rw [List.eraseIdx_append_of_length_le (Nat.le_refl _), Nat.sub_self]
    exact List.append_nil _
  rw [add_of_open unclosed, detach?_eq_some_iff]
  refine ⟨List.getElem?_concat_length, ?_⟩
  obtain ⟨category, locale, roster⟩ := collection
  cases roster with
  | active members => exact congrArg (Collection.ofMembers category locale) last.symm
  | closed => cases unclosed

theorem largerFrequency_eq_max (left right : Option Nat) :
    largerFrequency left right = max left right := by
  cases left <;> cases right <;> rfl

namespace Dictionary

open Suggestion

/-- What a dictionary suggests if nothing limits it. -/
def allSuggestions (dictionary : Dictionary) (query : String) (mode : MatchMode) :
    List Suggestion :=
  dictionary.suggestions query ⟨Search.largestLimit, mode⟩

/-- A dictionary answers as before and, beyond that, as a new one does. -/
structure Enriches (before new after : Dictionary) : Prop where
  former : ∀ query mode,
    onlyWords (wordsOf (before.allSuggestions query mode)) (after.allSuggestions query mode) =
      before.allSuggestions query mode
  others : ∀ query mode,
    exceptWords (wordsOf (before.allSuggestions query mode)) (after.allSuggestions query mode) =
      exceptWords (wordsOf (before.allSuggestions query mode)) (new.allSuggestions query mode)
  inOrder : ∀ query mode,
    (before.allSuggestions query mode).Sublist (after.allSuggestions query mode)
  frequency : ∀ word, after.frequency? word = max (before.frequency? word) (new.frequency? word)
  unlowered : ∀ word frequency, before.frequency? word = some frequency →
    ∃ raised, after.frequency? word = some raised ∧ frequency ≤ raised
  contains : ∀ word, after.contains word = (before.contains word || new.contains word)

theorem ranked_accepted (dictionary : Dictionary) (query : String) (mode : MatchMode) :
    ranked (dictionary.accepted query mode) = dictionary.accepted query mode := by
  rw [accepted, ranked_filter fun word => mode.accepts word (Text.canonical query), listing,
    ranked_ranked]

section Appended

variable {group added : Collection Dictionary} {dictionary : Dictionary}
  (appended : added.members = group.members ++ [dictionary])

include appended

theorem leaves_appended :
    (collection added).leaves = (collection group).leaves ++ dictionary.leaves := by
  rw [leaves_collection, leaves_collection, appended, List.flatMap_append, List.flatMap_singleton]

theorem wordCount_appended :
    (collection added).wordCount = (collection group).wordCount + dictionary.wordCount := by
  rw [wordCount, leaves_appended appended, List.flatMap_append, List.length_append, wordCount,
    wordCount]

theorem accepted_appended (query : String) (mode : MatchMode) :
    (collection added).accepted query mode =
      ranked ((collection group).accepted query mode ++ dictionary.accepted query mode) := by
  rw [accepted_collection, accepted_collection, merge_eq_ranked, merge_eq_ranked, appended,
    List.map_append, List.flatten_append, List.map_singleton, List.flatten_singleton,
    ranked_append_left]

theorem frequency?_appended (word : String) :
    (collection added).frequency? word =
      max ((collection group).frequency? word) (dictionary.frequency? word) := by
  rw [frequency?_eq_max?, leaves_appended appended, List.filterMap_append, ← largerFrequency_max?,
    ← frequency?_eq_max?, ← frequency?_eq_max?, largerFrequency_eq_max]

theorem enriches_of_appended
    (few : (collection group).wordCount + dictionary.wordCount < UInt64.size) :
    Enriches (collection group) dictionary (collection added) := by
  have fewBefore : (collection group).wordCount < UInt64.size := by omega
  have fewNew : dictionary.wordCount < UInt64.size := by omega
  have fewAfter : (collection added).wordCount < UInt64.size := by
    rw [wordCount_appended appended]
    exact few
  have former : ∀ query mode,
      onlyWords (wordsOf ((collection group).allSuggestions query mode))
        ((collection added).allSuggestions query mode) =
      (collection group).allSuggestions query mode := by
    intro query mode
    rw [allSuggestions, allSuggestions, suggestions_unlimited fewBefore,
      suggestions_unlimited fewAfter, accepted_appended appended, onlyWords_ranked_append,
      ranked_accepted]
  refine ⟨former, ?_, ?_, frequency?_appended appended, ?_, ?_⟩
  · intro query mode
    rw [allSuggestions, allSuggestions, allSuggestions, suggestions_unlimited fewBefore,
      suggestions_unlimited fewAfter, suggestions_unlimited fewNew, accepted_appended appended,
      exceptWords_ranked_append, ranked_accepted]
  · intro query mode
    rw [← former query mode]
    exact List.filter_sublist
  · intro word frequency found
    rw [frequency?_appended appended, found]
    cases dictionary.frequency? word with
    | none => exact ⟨frequency, rfl, Nat.le_refl frequency⟩
    | some other => exact ⟨max frequency other, rfl, Nat.le_max_left frequency other⟩
  · intro word
    rw [contains_eq_any, leaves_appended appended, List.any_append, ← contains_eq_any,
      ← contains_eq_any]

end Appended

/-- An open collection keeps a member that is added to it and answers for it too. Nothing that it
answered before is lost, and all of it is as it was when the member is taken off again. -/
theorem add_enriches (group : Collection Dictionary) (dictionary : Dictionary)
    (unclosed : group.isClosed = false)
    (few : (collection group).wordCount + dictionary.wordCount < UInt64.size) :
    ∃ added, group.add dictionary = (added, []) ∧
      Enriches (collection group) dictionary (collection added) ∧
      added.size = group.size + 1 ∧ added.detach? group.size = some (dictionary, group) := by
  refine ⟨_, Collection.add_of_open unclosed dictionary, enriches_of_appended rfl few, ?_, ?_⟩
  · exact List.length_append
  · have handed := Collection.detach?_add unclosed dictionary
    rw [Collection.add_of_open unclosed] at handed
    exact handed

/-- The new member has one word that is there and a new one, which comes after an old one of its
frequency. -/
theorem add_enriches_nestedPair :
    nestedPair.isClosed = false ∧
      (collection nestedPair).wordCount + (volumeOf [("ha", 20), ("hz", 8)]).wordCount <
        UInt64.size ∧
      ∃ added, nestedPair.add (volumeOf [("ha", 20), ("hz", 8)]) = (added, []) ∧
        (collection added).allSuggestions "h" .leading =
          [⟨"ha", 9, .main⟩, ⟨"hb", 8, .main⟩, ⟨"hz", 8, .main⟩, ⟨"hello", 1, .main⟩] ∧
        (collection added).frequency? "ha" = some 20 ∧
        Enriches (collection nestedPair) (volumeOf [("ha", 20), ("hz", 8)]) (collection added) ∧
        added.detach? 2 = some (volumeOf [("ha", 20), ("hz", 8)], nestedPair) := by
  have few : (collection nestedPair).wordCount + (volumeOf [("ha", 20), ("hz", 8)]).wordCount <
      UInt64.size := by decide
  obtain ⟨added, made, enriches, _, handed⟩ := add_enriches nestedPair _ rfl few
  refine ⟨rfl, few, added, made, ?_, ?_, enriches, handed⟩
  · cases made
    cbv
  · rw [enriches.frequency]
    decide

end Dictionary

end Lexicon
