/-!
# Searches and suggestions

What is asked of a dictionary and what it answers. A search names how words are compared with the
query and how many suggestions are wanted.
-/

set_option autoImplicit false

namespace Lexicon

inductive Category where
  | main
  deriving DecidableEq, Repr

def Category.name : Category → String
  | .main => "main"

inductive MatchMode where
  | exact
  | leading
  deriving DecidableEq, Repr

/-- Whether a word begins with a query, character by character. -/
def beginsWith (word query : String) : Bool :=
  query.toList.isPrefixOf word.toList

def MatchMode.accepts (mode : MatchMode) (word query : String) : Bool :=
  match mode with
  | .exact => word == query
  | .leading => beginsWith word query

structure Search where
  limit : Nat := 18
  mode : MatchMode := .leading
  deriving DecidableEq, Repr

namespace Search

/-- The largest limit that a search can have. -/
def largestLimit : Nat :=
  UInt64.size - 1

/-- The same search for as many suggestions as a search can ask for. -/
def unbounded (search : Search) : Search :=
  { search with limit := largestLimit }

@[simp] theorem unbounded_limit (search : Search) : search.unbounded.limit = largestLimit :=
  rfl

@[simp] theorem unbounded_mode (search : Search) : search.unbounded.mode = search.mode :=
  rfl

end Search

/-- A word that a search found, with its frequency and the role of the dictionary that holds it. -/
structure Suggestion where
  word : String
  frequency : Nat
  source : Category
  deriving DecidableEq, Repr

namespace Suggestion

/-- Puts suggestions in order of falling frequency. Equal frequencies keep their order. -/
def byFrequency (suggestions : List Suggestion) : List Suggestion :=
  suggestions.mergeSort fun first second => second.frequency ≤ first.frequency

def firstOfEach : List Suggestion → List Suggestion
  | [] => []
  | suggestion :: rest =>
    suggestion :: (firstOfEach rest).filter fun later => later.word != suggestion.word

/-- One list from several: of equal words the earliest entry is kept, then the most frequent words
come first, and among equals the earlier list and the earlier place in it. -/
def merge (lists : List (List Suggestion)) : List Suggestion :=
  byFrequency (firstOfEach lists.flatten)

@[simp] theorem merge_nil : merge [] = [] := by
  simp [merge, firstOfEach, byFrequency]

end Suggestion

end Lexicon
