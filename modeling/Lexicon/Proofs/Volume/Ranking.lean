import Lexicon.Proofs.Search.Merging
import Lexicon.Proofs.Text.ByteOrder
import Lexicon.Proofs.Volume.Listing
import Mathlib.Data.List.Permutation

/-!
# Ranked answers of a volume

What a volume suggests, said of its table alone and in terms of bytes: neither the place where the scan
starts nor the word that stops it shows in the answer. A word begins with a query if the bytes of the
query start the bytes of the word.
-/

set_option autoImplicit false

namespace Lexicon

open Suggestion

/-- More frequent words come first, and words of one frequency come in the order of their bytes. -/
def Suggestion.Outranks (first second : Suggestion) : Prop :=
  second.frequency < first.frequency ∨
    second.frequency = first.frequency ∧
      Text.encodeUtf8 first.word < Text.encodeUtf8 second.word

theorem Suggestion.Outranks.asymm {first second : Suggestion} (before : Outranks first second) :
    ¬ Outranks second first := by
  rintro (more | ⟨level, smaller⟩)
  · rcases before with less | ⟨level, _⟩ <;> omega
  · rcases before with less | ⟨_, larger⟩
    · omega
    · exact List.lt_irrefl _ (List.lt_trans larger smaller)

/-- A word begins with the composed form of a query, byte by byte. -/
def StartsWith (word query : String) : Prop :=
  Text.encodeUtf8 (Text.canonical query) <+: Text.encodeUtf8 word

theorem startsWith_iff {word query : String} :
    StartsWith word query ↔ beginsWith word (Text.canonical query) = true := by
  rw [StartsWith, Text.encodeUtf8_isPrefix_iff, beginsWith_iff]

namespace Volume

/-- A list of everything that a volume has for a query, the best first. -/
structure Ranks (volume : Volume) (query : String) (whole : List Suggestion) : Prop where
  entries : ∀ suggestion, suggestion ∈ whole ↔
    (suggestion.word, suggestion.frequency) ∈ volume.words.entries ∧
      suggestion.source = volume.category ∧ StartsWith suggestion.word query
  order : whole.Pairwise Outranks

theorem Ranks.unique {volume : Volume} {query : String} {left right : List Suggestion}
    (first : volume.Ranks query left) (second : volume.Ranks query right) : left = right := by
  have distinct {whole : List Suggestion} (order : whole.Pairwise Outranks) : whole.Nodup := by
    refine order.imp ?_
    intro best other before same
    exact before.asymm (same ▸ before)
  refine @List.Perm.eq_of_pairwise _ Outranks _ _ ?_ first.order second.order ?_
  · intro best other _ _ before behind
    exact absurd behind before.asymm
  · apply (List.perm_ext_iff_of_nodup (distinct first.order) (distinct second.order)).2
    intro suggestion
    rw [first.entries, second.entries]

theorem pairwise_outranks_listing (volume : Volume) : volume.listing.Pairwise Outranks := by
  have rising : (volume.words.entries.map volume.entrySuggestion).Pairwise fun first second =>
      Text.encodeUtf8 first.word < Text.encodeUtf8 second.word := by
    rw [List.pairwise_map]
    exact volume.words.rising.imp Text.encodeUtf8_lt_iff.2
  apply (pairwise_byFrequency rising).imp
  intro first second ⟨falls, levelRises⟩
  rcases Nat.lt_or_eq_of_le falls with less | level
  · exact .inl less
  · exact .inr ⟨level, levelRises level⟩

theorem ranks_matching (volume : Volume) (query : String) :
    volume.Ranks query (volume.matching query .leading) := by
  rw [matching_eq_filter]
  constructor
  · intro suggestion
    rw [List.mem_filter, mem_listing, startsWith_iff, and_assoc]
    rfl
  · exact volume.pairwise_outranks_listing.filter _

theorem matching_exact_of_mem {volume : Volume} {query : String} {frequency : Nat}
    (held : (Text.canonical query, frequency) ∈ volume.words.entries) :
    volume.matching query .exact = [⟨Text.canonical query, frequency, volume.category⟩] := by
  rw [matching_eq_filter]
  have distinct : volume.listing.Nodup := volume.nodup_listing.of_map
  apply List.perm_singleton.1
  apply (List.perm_ext_iff_of_nodup (distinct.filter _) (List.nodup_singleton _)).2
  intro suggestion
  rw [List.mem_filter, mem_listing, List.mem_singleton]
  constructor
  · rintro ⟨⟨alsoHeld, source⟩, asked⟩
    have named : suggestion.word = Text.canonical query := eq_of_beq asked
    have known := (WordTable.mem_entries_iff.1 alsoHeld).2
    rw [named, (WordTable.mem_entries_iff.1 held).2, Option.some.injEq] at known
    rw [← named, known, ← source]
  · rintro rfl
    exact ⟨⟨held, rfl⟩, beq_self_eq_true _⟩

theorem matching_exact_of_not_mem {volume : Volume} {query : String}
    (absent : ∀ frequency, (Text.canonical query, frequency) ∉ volume.words.entries) :
    volume.matching query .exact = [] := by
  rw [matching_eq_filter, List.filter_eq_nil_iff]
  intro suggestion listed asked
  have named : suggestion.word = Text.canonical query := eq_of_beq asked
  have held := (mem_listing.1 listed).1
  rw [named] at held
  exact absent suggestion.frequency held

/-- The scan of a volume misses nothing. A search for words that begin with the query gives the first
of all that do, the most frequent first and equally frequent ones in the order of their bytes; an exact
search gives the one entry of the query. The words that begin with the query stand together in the
table, behind those that are below it. -/
theorem suggestions_scanned (volume : Volume) (query : String) :
    (∃ whole, (∀ other, volume.Ranks query other ↔ other = whole) ∧
      ∀ limit, volume.suggestions query ⟨limit, .leading⟩ = whole.take limit) ∧
    (∀ frequency limit, (Text.canonical query, frequency) ∈ volume.words.entries → 1 ≤ limit →
      volume.suggestions query ⟨limit, .exact⟩ =
        [⟨Text.canonical query, frequency, volume.category⟩]) ∧
    (∀ limit,
      (∀ frequency, (Text.canonical query, frequency) ∉ volume.words.entries) ∨ limit = 0 →
      volume.suggestions query ⟨limit, .exact⟩ = []) ∧
    ∃ before after,
      volume.words.entries = before ++ volume.words.beginningWith query ++ after ∧
      (∀ entry ∈ before, Text.encodeUtf8 entry.1 < Text.encodeUtf8 (Text.canonical query)) ∧
      (∀ entry ∈ volume.words.beginningWith query, StartsWith entry.1 query) ∧
      ∀ entry ∈ before ++ after, ¬ StartsWith entry.1 query := by
  refine ⟨⟨volume.matching query .leading, ?_, fun _ => rfl⟩, ?_, ?_, ?_⟩
  · intro other
    have ranks := volume.ranks_matching query
    constructor
    · intro otherRanks
      exact otherRanks.unique ranks
    · rintro rfl
      exact ranks
  · intro frequency limit held wanted
    rw [suggestions, matching_exact_of_mem held]
    exact List.take_of_length_le wanted
  · rintro limit (absent | rfl)
    · rw [suggestions, matching_exact_of_not_mem absent, List.take_nil]
    · exact List.take_zero
  · obtain ⟨before, after, split, below, behind⟩ := volume.words.exists_block query
    refine ⟨before, after, split, ?_, ?_, ?_⟩
    · intro entry among
      exact Text.encodeUtf8_lt_iff.2 (below entry among)
    · intro entry among
      rw [WordTable.beginningWith_eq_filter] at among
      exact startsWith_iff.2 (List.mem_filter.1 among).2
    · intro entry among starts
      have begins := startsWith_iff.1 starts
      rcases List.mem_append.1 among with early | late
      · exact not_lt_of_beginsWith begins (below entry early)
      · exact behind entry late begins

/-- Two of the words have one frequency, and a query that is no word begins three of them. -/
def articles : Volume :=
  ⟨⟨⟨"words.dict"⟩, 0, 64, true⟩, none, .main,
    .ok (.ofList [("there", 180), ("the", 250), ("cat", 90), ("then", 180)])⟩

theorem suggestions_scanned_articles :
    (Text.canonical "the", 250) ∈ articles.words.entries ∧ 1 ≤ 5 ∧
      (∀ frequency, (Text.canonical "th", frequency) ∉ articles.words.entries) ∧
      articles.suggestions "the" ⟨5, .exact⟩ = [⟨"the", 250, .main⟩] ∧
      articles.suggestions "th" ⟨5, .exact⟩ = [] ∧
      articles.suggestions "th" ⟨2, .leading⟩ = [⟨"the", 250, .main⟩, ⟨"then", 180, .main⟩] := by
  have held : (Text.canonical "the", 250) ∈ articles.words.entries := by decide
  have unnamed : Text.canonical "th" ∉ articles.words.entries.map Prod.fst := by decide
  have absent : ∀ frequency, (Text.canonical "th", frequency) ∉ articles.words.entries := by
    intro frequency among
    exact unnamed (List.mem_map_of_mem among)
  obtain ⟨_, found, _⟩ := suggestions_scanned articles "the"
  obtain ⟨_, _, nothing, _⟩ := suggestions_scanned articles "th"
  exact ⟨held, by decide, absent, found 250 5 held (by decide), nothing 5 (.inl absent), by cbv⟩

end Volume

end Lexicon
