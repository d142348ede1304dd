import Lexicon.WordTable
import Mathlib.Data.List.TakeWhile

/-!
# Scanning a word table

The words that begin with a query stand together in a table, and no word below the query is among
them. So the scan from the query up to the first word that does not begin with it finds every word
that does.
-/

set_option autoImplicit false

namespace Lexicon

/-! ## Words between two others -/

private theorem not_lt_of_isPrefix {query word : List Char} (begins : query <+: word) :
    ¬ word < query := by
  obtain ⟨rest, rfl⟩ := begins
  induction query with
  | nil => exact List.not_lt_nil _
  | cons c query ih =>
    rw [List.cons_append, List.cons_lt_cons_iff]
    rintro (below | ⟨_, below⟩)
    · exact Nat.lt_irrefl _ below
    · exact ih below

private theorem isPrefix_of_between {query word last : List Char} (above : ¬ word < query)
    (below : word < last) (begins : query <+: last) : query <+: word := by
  induction query generalizing word last with
  | nil => exact List.nil_prefix
  | cons c query ih =>
    obtain ⟨rest, rfl⟩ := begins
    cases word with
    | nil => exact absurd (List.nil_lt_cons c query) above
    | cons d word =>
      rw [List.cons_lt_cons_iff, not_or] at above
      rw [List.cons_append, List.cons_lt_cons_iff] at below
      rcases below with smaller | ⟨same, below⟩
      · exact absurd smaller above.1
      · subst same
        have tailAbove : ¬ word < query := fun smaller => above.2 ⟨rfl, smaller⟩
        exact (List.prefix_cons_inj d).2 (ih tailAbove below (List.prefix_append query rest))

theorem beginsWith_iff {word query : String} :
    beginsWith word query = true ↔ query.toList <+: word.toList :=
  List.isPrefixOf_iff_prefix

theorem not_lt_of_beginsWith {word query : String} (begins : beginsWith word query = true) :
    ¬ word < query := by
  rw [String.lt_iff]
  exact not_lt_of_isPrefix (beginsWith_iff.1 begins)

/-- Between a query and a word that begins with it stand only words that begin with it. -/
theorem beginsWith_of_between {word last query : String} (above : ¬ word < query)
    (below : word < last) (begins : beginsWith last query = true) :
    beginsWith word query = true := by
  rw [String.lt_iff] at above below
  exact beginsWith_iff.2 (isPrefix_of_between above below (beginsWith_iff.1 begins))

theorem beginsWith_empty (word : String) : beginsWith word "" = true :=
  beginsWith_iff.2 List.nil_prefix

theorem beginsWith_self (word : String) : beginsWith word word = true :=
  beginsWith_iff.2 (List.prefix_refl _)

theorem beginsWith_trans {word middle query : String} (begins : beginsWith word middle = true)
    (alsoBegins : beginsWith middle query = true) : beginsWith word query = true :=
  beginsWith_iff.2 ((beginsWith_iff.1 alsoBegins).trans (beginsWith_iff.1 begins))

theorem MatchMode.beginsWith_of_accepts {mode : MatchMode} {word query : String}
    (accepted : mode.accepts word query = true) : beginsWith word query = true := by
  cases mode with
  | exact =>
    have same : word = query := eq_of_beq accepted
    rw [same]
    exact beginsWith_self query
  | leading => exact accepted

/-! ## The scan -/

namespace WordTable

private theorem takeWhile_eq_filter {α : Type} {holds : α → Bool} {entries : List α}
    (closed : entries.Pairwise fun first second => holds second = true → holds first = true) :
    entries.takeWhile holds = entries.filter holds := by
  induction entries with
  | nil => rfl
  | cons first rest ih =>
    obtain ⟨heads, restClosed⟩ := List.pairwise_cons.1 closed
    by_cases held : holds first = true
    · rw [List.takeWhile_cons_of_pos held, List.filter_cons_of_pos held, ih restClosed]
    · rw [List.takeWhile_cons_of_neg held, List.filter_cons_of_neg held, List.filter_eq_nil_iff.2]
      intro later among alsoHeld
      exact held (heads later among alsoHeld)

private theorem filter_dropWhile {α : Type} {skips holds : α → Bool} {entries : List α}
    (apart : ∀ entry, holds entry = true → skips entry = false) :
    (entries.dropWhile skips).filter holds = entries.filter holds := by
  induction entries with
  | nil => rfl
  | cons first rest ih =>
    by_cases skipped : skips first = true
    · have missed : ¬ holds first = true := fun held => by simp [apart first held] at skipped
      rw [List.dropWhile_cons_of_pos skipped, List.filter_cons_of_neg missed, ih]
    · rw [List.dropWhile_cons_of_neg skipped]

/-- In rising words, those after the first one that is not below the query are not either. -/
theorem not_lt_of_mem_dropWhile {entries : List (String × Nat)} {query : String}
    {entry : String × Nat} (rising : entries.Pairwise fun first second => first.1 < second.1)
    (among : entry ∈ entries.dropWhile fun entry => entry.1 < query) : ¬ entry.1 < query := by
  induction entries with
  | nil => cases among
  | cons first rest ih =>
    obtain ⟨above, restRising⟩ := List.pairwise_cons.1 rising
    rw [List.dropWhile_cons] at among
    split at among
    · exact ih restRising among
    · next stays =>
      have notBelow : ¬ first.1 < query := by simpa using stays
      cases among with
      | head => exact notBelow
      | tail _ later => exact fun below => notBelow (String.lt_trans (above entry later) below)

/-- The scan finds every word that begins with the query. -/
theorem beginningWith_eq_filter (table : WordTable) (query : String) :
    table.beginningWith query =
      table.entries.filter fun entry => beginsWith entry.1 (Text.canonical query) := by
  have closed : (table.entries.dropWhile fun entry => entry.1 < Text.canonical query).Pairwise
      fun first second => beginsWith second.1 (Text.canonical query) = true →
        beginsWith first.1 (Text.canonical query) = true := by
    have rising := table.rising.sublist
      (List.dropWhile_sublist fun entry => decide (entry.1 < Text.canonical query))
    apply rising.imp_of_mem
    intro first second among _ below begins
    exact beginsWith_of_between (not_lt_of_mem_dropWhile table.rising among) below begins
  rw [beginningWith, takeWhile_eq_filter closed, filter_dropWhile]
  intro entry begins
  exact decide_eq_false (not_lt_of_beginsWith begins)

/-- The scan finds one block of the table. What stands before the block is below the query, and nothing
behind it begins with the query any more. -/
theorem exists_block (table : WordTable) (query : String) :
    ∃ before after, table.entries = before ++ table.beginningWith query ++ after ∧
      (∀ entry ∈ before, entry.1 < Text.canonical query) ∧
      ∀ entry ∈ after, ¬ beginsWith entry.1 (Text.canonical query) = true := by
  have split : table.entries = (table.entries.takeWhile fun entry => entry.1 < Text.canonical query) ++
      table.beginningWith query ++
        (table.entries.dropWhile fun entry => entry.1 < Text.canonical query).dropWhile fun entry =>
          beginsWith entry.1 (Text.canonical query) := by
    rw [beginningWith, List.append_assoc, List.takeWhile_append_dropWhile,
      List.takeWhile_append_dropWhile]
  refine ⟨_, _, split, ?_, ?_⟩
  · intro entry among
    simpa using List.mem_takeWhile_imp among
  · intro entry among begins
    have held : entry ∈ table.entries := by
      rw [split]
      exact List.mem_append_right _ among
    -- The scan has found the entry, so it stands below itself in the rising table.
    have found : entry ∈ table.beginningWith query := by
      rw [beginningWith_eq_filter]
      exact List.mem_filter.2 ⟨held, begins⟩
    have rising := table.rising
    rw [split, List.pairwise_append] at rising
    exact String.lt_irrefl _ (rising.2.2 entry (List.mem_append_right _ found) entry among)

/-- A search finds exactly the words that its mode accepts. -/
theorem matching_eq_filter (table : WordTable) (query : String) (mode : MatchMode) :
    table.matching query mode =
      table.entries.filter fun entry => mode.accepts entry.1 (Text.canonical query) := by
  rw [matching, beginningWith_eq_filter, List.filter_filter]
  apply List.filter_congr
  intro entry _
  cases accepted : mode.accepts entry.1 (Text.canonical query) with
  | false => rfl
  | true => rw [MatchMode.beginsWith_of_accepts accepted]; rfl

end WordTable

end Lexicon
