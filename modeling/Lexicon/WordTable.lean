import Lexicon.Search
import Lexicon.Text.Canonical

/-!
# Word tables

Words with their frequencies, in strictly rising order of code points, which is also the order of
their UTF-8 bytes. Words are held in composed form and looked up by it, so all spellings of a word are
one word, and it is in a table at most once.

Words that begin with a query stand together, and the first of them is not below the query. So a
search starts at the query and ends with the first word that does not begin with it.
-/

set_option autoImplicit false

namespace Lexicon

/-- Composed words in rising order, each with a frequency. -/
structure WordTable where
  entries : List (String × Nat)
  rising : entries.Pairwise fun first second => first.1 < second.1
  composed : ∀ entry ∈ entries, Text.canonical entry.1 = entry.1

namespace WordTable

theorem ext {left right : WordTable} (same : left.entries = right.entries) : left = right := by
  cases left
  cases right
  cases same
  rfl

instance : DecidableEq WordTable := fun left right =>
  if same : left.entries = right.entries then isTrue (ext same)
  else isFalse fun equal => same (congrArg entries equal)

def empty : WordTable :=
  ⟨[], .nil, by simp⟩

instance : Inhabited WordTable := ⟨empty⟩

def size (table : WordTable) : Nat :=
  table.entries.length

def frequency? (table : WordTable) (word : String) : Option Nat :=
  table.entries.lookup (Text.canonical word)

/-- Puts a word in its place, or raises its frequency if it is there with a smaller one. -/
def raiseIn (word : String) (frequency : Nat) : List (String × Nat) → List (String × Nat)
  | [] => [(word, frequency)]
  | (held, known) :: rest =>
    if word < held then (word, frequency) :: (held, known) :: rest
    else if word = held then (held, max known frequency) :: rest
    else (held, known) :: raiseIn word frequency rest

theorem mem_raiseIn {word : String} {frequency : Nat} {entries : List (String × Nat)}
    {entry : String × Nat} (member : entry ∈ raiseIn word frequency entries) :
    entry.1 = word ∨ ∃ held ∈ entries, held.1 = entry.1 := by
  induction entries with
  | nil =>
    simp only [raiseIn, List.mem_singleton] at member
    exact .inl (member ▸ rfl)
  | cons head rest ih =>
    obtain ⟨held, known⟩ := head
    simp only [raiseIn] at member
    split at member
    · rcases List.mem_cons.1 member with rfl | later
      · exact .inl rfl
      · exact .inr ⟨entry, later, rfl⟩
    · split at member
      · rcases List.mem_cons.1 member with rfl | later
        · exact .inr ⟨(held, known), List.mem_cons_self, rfl⟩
        · exact .inr ⟨entry, List.mem_cons_of_mem _ later, rfl⟩
      · rcases List.mem_cons.1 member with rfl | later
        · exact .inr ⟨(held, known), List.mem_cons_self, rfl⟩
        · rcases ih later with same | ⟨found, among, same⟩
          · exact .inl same
          · exact .inr ⟨found, List.mem_cons_of_mem _ among, same⟩

theorem rising_raiseIn {word : String} {frequency : Nat} {entries : List (String × Nat)}
    (rising : entries.Pairwise fun first second => first.1 < second.1) :
    (raiseIn word frequency entries).Pairwise fun first second => first.1 < second.1 := by
  induction entries with
  | nil => simp [raiseIn]
  | cons head rest ih =>
    obtain ⟨held, known⟩ := head
    obtain ⟨above, tail⟩ := List.pairwise_cons.1 rising
    simp only [raiseIn]
    split
    · next below =>
      refine List.pairwise_cons.2 ⟨?_, rising⟩
      intro later member
      rcases List.mem_cons.1 member with rfl | member
      · exact below
      · exact String.lt_trans below (above later member)
    · split
      · exact List.pairwise_cons.2 ⟨above, tail⟩
      · next notBelow different =>
        refine List.pairwise_cons.2 ⟨?_, ih tail⟩
        intro later member
        have heldBelow : held < word := by
          apply Classical.byContradiction
          intro notAbove
          exact different (String.le_antisymm (String.not_lt.1 notAbove) (String.not_lt.1 notBelow))
        rcases mem_raiseIn member with same | ⟨found, among, same⟩
        · exact same ▸ heldBelow
        · exact same ▸ above found among

theorem composed_raiseIn {word : String} {frequency : Nat} {entries : List (String × Nat)}
    (isComposed : Text.canonical word = word)
    (composed : ∀ entry ∈ entries, Text.canonical entry.1 = entry.1) :
    ∀ entry ∈ raiseIn word frequency entries, Text.canonical entry.1 = entry.1 := by
  intro entry member
  rcases mem_raiseIn member with same | ⟨held, among, same⟩
  · rw [same]
    exact isComposed
  · rw [← same]
    exact composed held among

/-- The table in which a word has at least the given frequency. -/
def raise (table : WordTable) (word : String) (frequency : Nat) : WordTable where
  entries := raiseIn (Text.canonical word) frequency table.entries
  rising := rising_raiseIn table.rising
  composed := composed_raiseIn (Text.canonical_canonical word) table.composed

/-- The table of a list of words: each has the largest frequency that the list gives it. -/
def ofList (words : List (String × Nat)) : WordTable :=
  words.foldl (fun table (word, frequency) => table.raise word frequency) empty

/-- The entries whose word begins with a query: those from the query on, as long as they do. -/
def beginningWith (table : WordTable) (query : String) : List (String × Nat) :=
  let query := Text.canonical query
  (table.entries.dropWhile fun entry => entry.1 < query).takeWhile fun entry =>
    beginsWith entry.1 query

def matching (table : WordTable) (query : String) (mode : MatchMode) : List (String × Nat) :=
  (table.beginningWith query).filter fun entry => mode.accepts entry.1 (Text.canonical query)

end WordTable

end Lexicon
