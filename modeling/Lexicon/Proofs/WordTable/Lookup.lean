import Lexicon.Proofs.Entries
import Lexicon.WordTable
import Mathlib.Data.List.Dedup
import Mathlib.Data.List.Induction

/-!
# Looking words up

A word table answers for a word with the largest frequency that was ever given to a spelling of it,
and holds each composed form once. Two tables that answer alike for every word are the same table.
-/

set_option autoImplicit false

namespace Lexicon

/-- The largest frequency that a list gives to a word in any of its spellings. -/
def largestGiven? (words : List (String × Nat)) (word : String) : Option Nat :=
  ((words.filter fun entry => Text.canonical entry.1 = Text.canonical word).map Prod.snd).max?

def formsOf (words : List (String × Nat)) : List String :=
  (words.map fun entry => Text.canonical entry.1).dedup

theorem mem_formsOf {words : List (String × Nat)} {form : String} :
    form ∈ formsOf words ↔ ∃ entry ∈ words, Text.canonical entry.1 = form := by
  rw [formsOf, List.mem_dedup, List.mem_map]

theorem largestGiven?_isSome_iff {words : List (String × Nat)} {word : String} :
    (largestGiven? words word).isSome = true ↔ Text.canonical word ∈ formsOf words := by
  rw [mem_formsOf, Option.isSome_iff_ne_none, Ne, largestGiven?, List.max?_eq_none_iff,
    List.map_eq_nil_iff, List.filter_eq_nil_iff]
  constructor
  · intro given
    apply Classical.byContradiction
    intro absent
    apply given
    intro entry member same
    exact absent ⟨entry, member, of_decide_eq_true same⟩
  · intro ⟨entry, member, same⟩ absent
    exact absent entry member (decide_eq_true same)

/-- Only which frequencies a word is given matters, not where they stand. -/
theorem largestGiven?_congr {left right : List (String × Nat)} {word : String}
    (same : ∀ frequency,
      (∃ entry ∈ left, Text.canonical entry.1 = Text.canonical word ∧ entry.2 = frequency) ↔
        ∃ entry ∈ right, Text.canonical entry.1 = Text.canonical word ∧ entry.2 = frequency) :
    largestGiven? left word = largestGiven? right word := by
  have members : ∀ (words : List (String × Nat)) (frequency : Nat),
      frequency ∈ (words.filter fun entry =>
          decide (Text.canonical entry.1 = Text.canonical word)).map Prod.snd ↔
        ∃ entry ∈ words, Text.canonical entry.1 = Text.canonical word ∧ entry.2 = frequency := by
    intro words frequency
    simp only [List.mem_map, List.mem_filter, decide_eq_true_eq, and_assoc]
  apply Option.ext
  intro largest
  rw [largestGiven?, largestGiven?, List.max?_eq_some_iff, List.max?_eq_some_iff]
  simp only [members, same]

def composedEntry (entry : String × Nat) : String × Nat :=
  (Text.canonical entry.1, entry.2)

/-- Neither the order of a list nor its spellings matter. -/
theorem largestGiven?_of_perm {left right : List (String × Nat)}
    (same : (left.map composedEntry).Perm (right.map composedEntry)) (word : String) :
    largestGiven? left word = largestGiven? right word := by
  have given : ∀ (words : List (String × Nat)) (frequency : Nat),
      (∃ entry ∈ words, Text.canonical entry.1 = Text.canonical word ∧ entry.2 = frequency) ↔
        (Text.canonical word, frequency) ∈ words.map composedEntry := by
    intro words frequency
    simp only [List.mem_map, composedEntry, Prod.mk.injEq]
  apply largestGiven?_congr
  intro frequency
  rw [given, given, same.mem_iff]

theorem formsOf_perm {left right : List (String × Nat)}
    (same : (left.map composedEntry).Perm (right.map composedEntry)) :
    (formsOf left).Perm (formsOf right) := by
  have forms : ∀ words : List (String × Nat),
      words.map (fun entry => Text.canonical entry.1) = (words.map composedEntry).map Prod.fst := by
    intro words
    rw [List.map_map]
    rfl
  rw [formsOf, formsOf, forms, forms]
  exact (same.map Prod.fst).dedup

namespace WordTable

private theorem max?_concat (values : List Nat) (last : Nat) :
    (values ++ [last]).max? = some (max (values.max?.getD 0) last) := by
  cases values with
  | nil => simp
  | cons first rest =>
    rw [List.cons_append, List.max?_cons', List.max?_cons', List.foldl_append]
    rfl

private theorem lookup_cons_other {word held : String} (known : Nat)
    (rest : List (String × Nat)) (different : word ≠ held) :
    ((held, known) :: rest).lookup word = rest.lookup word := by
  rw [List.lookup_cons, beq_eq_false_iff_ne.2 different]

/-- Putting a word in its place changes what the list says of that word and of no other. -/
theorem lookup_raiseIn {word other : String} {frequency : Nat} {entries : List (String × Nat)}
    (rising : entries.Pairwise fun first second => first.1 < second.1) :
    (raiseIn word frequency entries).lookup other =
      if other = word then some (max ((entries.lookup word).getD 0) frequency)
      else entries.lookup other := by
  induction entries with
  | nil =>
    by_cases same : other = word <;> simp [raiseIn, same]
  | cons head rest ih =>
    obtain ⟨held, known⟩ := head
    obtain ⟨above, tail⟩ := List.pairwise_cons.1 rising
    simp only [raiseIn]
    split
    · next below =>
      have absent : ((held, known) :: rest).lookup word = none := by
        rw [List.lookup_eq_none_iff]
        intro entry member
        have later : word < entry.1 := by
          rcases List.mem_cons.1 member with rfl | member
          · exact below
          · exact String.lt_trans below (above entry member)
        have different : word ≠ entry.1 := fun same => String.lt_irrefl _ (same ▸ later)
        simpa using different
      by_cases asked : other = word
      · subst asked
        simp [absent]
      · rw [if_neg asked, lookup_cons_other frequency _ asked]
    · split
      · next same =>
        subst same
        by_cases asked : other = word
        · subst asked
          simp
        · rw [if_neg asked, lookup_cons_other _ _ asked, lookup_cons_other _ _ asked]
      · next different =>
        by_cases place : other = held
        · subst place
          rw [if_neg (fun same => different same.symm), List.lookup_cons_self,
            List.lookup_cons_self]
        · rw [lookup_cons_other _ _ place, lookup_cons_other _ _ place,
            lookup_cons_other _ _ different, ih tail]

theorem frequency?_raise (table : WordTable) (word other : String) (frequency : Nat) :
    (table.raise word frequency).frequency? other =
      if Text.canonical other = Text.canonical word then
        some (max ((table.frequency? other).getD 0) frequency)
      else table.frequency? other := by
  rw [frequency?, raise, lookup_raiseIn table.rising, frequency?]
  split
  · next same => rw [same]
  · rfl

theorem ofList_concat (words : List (String × Nat)) (word : String) (frequency : Nat) :
    ofList (words ++ [(word, frequency)]) = (ofList words).raise word frequency := by
  rw [ofList, ofList, List.foldl_append]
  rfl

/-- A table of a list answers with the largest frequency that the list gives. -/
theorem frequency?_ofList (words : List (String × Nat)) (word : String) :
    (ofList words).frequency? word = largestGiven? words word := by
  -- The last entry of the list is the last one raised.
  induction words using List.reverseRecOn with
  | nil => rfl
  | append_singleton words entry ih =>
    obtain ⟨last, frequency⟩ := entry
    rw [ofList_concat, frequency?_raise, ih, largestGiven?, largestGiven?, List.filter_append]
    by_cases same : Text.canonical word = Text.canonical last
    · rw [if_pos same, List.filter_singleton, decide_eq_true same.symm, cond_true,
        List.map_append, List.map_singleton, max?_concat]
    · rw [if_neg same, List.filter_singleton, decide_eq_false (fun other => same other.symm),
        cond_false, List.append_nil]

theorem nodup_words (table : WordTable) : (table.entries.map Prod.fst).Nodup := by
  rw [List.Nodup, List.pairwise_map]
  refine table.rising.imp ?_
  intro first second below same
  exact String.lt_irrefl _ (same ▸ below)

theorem mem_words_iff {table : WordTable} {word : String} :
    word ∈ table.entries.map Prod.fst ↔
      Text.canonical word = word ∧ (table.frequency? word).isSome = true := by
  rw [frequency?, Entries.lookup_isSome_iff_mem]
  constructor
  · intro member
    obtain ⟨entry, held, same⟩ := List.mem_map.1 member
    have composed : Text.canonical word = word := same ▸ table.composed entry held
    rw [composed]
    exact ⟨rfl, member⟩
  · intro ⟨composed, member⟩
    rw [composed] at member
    exact member

/-- A table of a list holds the composed forms of its words and nothing else. -/
theorem words_ofList_perm (words : List (String × Nat)) :
    ((ofList words).entries.map Prod.fst).Perm (formsOf words) := by
  apply (List.perm_ext_iff_of_nodup (nodup_words _) (List.nodup_dedup _)).2
  intro form
  rw [mem_words_iff, frequency?_ofList, largestGiven?_isSome_iff]
  constructor
  · intro ⟨composed, held⟩
    exact composed ▸ held
  · intro held
    obtain ⟨entry, member, same⟩ := mem_formsOf.1 held
    have composed : Text.canonical form = form := by
      rw [← same, Text.canonical_canonical]
    exact ⟨composed, composed.symm ▸ held⟩

theorem size_ofList (words : List (String × Nat)) :
    (ofList words).size = (formsOf words).length := by
  rw [size, ← (words_ofList_perm words).length_eq, List.length_map]

theorem mem_entries_iff {table : WordTable} {word : String} {frequency : Nat} :
    (word, frequency) ∈ table.entries ↔
      Text.canonical word = word ∧ table.frequency? word = some frequency := by
  rw [← Entries.lookup_eq_some_iff_mem table.nodup_words, frequency?]
  constructor
  · intro found
    have member := (Entries.lookup_eq_some_iff_mem table.nodup_words).1 found
    have composed : Text.canonical word = word := table.composed _ member
    rw [composed]
    exact ⟨rfl, found⟩
  · intro ⟨composed, found⟩
    rw [composed] at found
    exact found

/-- A table answers for a word with the entry of its composed form. -/
theorem frequency?_eq_some_iff {table : WordTable} {word : String} {frequency : Nat} :
    table.frequency? word = some frequency ↔ (Text.canonical word, frequency) ∈ table.entries := by
  rw [mem_entries_iff, WordTable.frequency?, WordTable.frequency?, Text.canonical_canonical]
  exact (and_iff_right rfl).symm

/-- The answers of a table determine it. -/
theorem ext_frequency? {left right : WordTable}
    (same : ∀ word, left.frequency? word = right.frequency? word) : left = right := by
  have distinct : ∀ table : WordTable, table.entries.Nodup := by
    intro table
    exact table.nodup_words.of_map
  apply ext
  refine @List.Perm.eq_of_pairwise _ (fun first second => first.1 < second.1) _ _ ?_ ?_ ?_ ?_
  · intro first second _ _ below above
    exact (String.lt_irrefl _ (String.lt_trans below above)).elim
  · exact left.rising
  · exact right.rising
  · apply (List.perm_ext_iff_of_nodup (distinct left) (distinct right)).2
    intro ⟨word, frequency⟩
    rw [mem_entries_iff, mem_entries_iff, same]

end WordTable

end Lexicon
