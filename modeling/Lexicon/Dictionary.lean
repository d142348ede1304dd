import Lexicon.Collection
import Lexicon.Volume

/-!
# Dictionaries

A dictionary is a volume or a collection of dictionaries, nested to any depth. A collection answers
for its members together: a word is in it if some member has it, its frequency is the largest among
the members, and its suggestions are those of all members merged.

A member is asked for as many suggestions as there can be and not only for as many as are wanted: a
word that the limit cut from an earlier member would come back from a later one with the later entry.
-/

set_option autoImplicit false

namespace Lexicon

inductive Dictionary where
  | volume (single : Volume)
  | collection (group : Collection Dictionary)

/-- The larger of two frequencies, where a word that is absent counts as smaller than any. -/
def largerFrequency : Option Nat → Option Nat → Option Nat
  | none, other => other
  | some frequency, none => some frequency
  | some left, some right => some (max left right)

namespace Dictionary

def category : Dictionary → Category
  | .volume single => single.category
  | .collection group => group.category

def locale : Dictionary → Option Locale
  | .volume single => single.locale
  | .collection group => group.locale

mutual

/-- Whether the dictionary, or some member of it, was sound when it was opened. -/
def isValid : Dictionary → Bool
  | .volume single => single.isValid
  | .collection ⟨_, _, .active members⟩ => anyValid members
  | .collection ⟨_, _, .closed⟩ => false

def anyValid : List Dictionary → Bool
  | [] => false
  | member :: rest => member.isValid || anyValid rest

end

mutual

def contains (word : String) : Dictionary → Bool
  | .volume single => single.contains word
  | .collection ⟨_, _, .active members⟩ => anyContains word members
  | .collection ⟨_, _, .closed⟩ => false

def anyContains (word : String) : List Dictionary → Bool
  | [] => false
  | member :: rest => member.contains word || anyContains word rest

end

mutual

/-- The frequency of a word, the largest among the members of a collection. -/
def frequency? (word : String) : Dictionary → Option Nat
  | .volume single => single.frequency? word
  | .collection ⟨_, _, .active members⟩ => largestFrequency? word members
  | .collection ⟨_, _, .closed⟩ => none

def largestFrequency? (word : String) : List Dictionary → Option Nat
  | [] => none
  | member :: rest => largerFrequency (member.frequency? word) (largestFrequency? word rest)

end

mutual

def suggestions (query : String) (search : Search) : Dictionary → List Suggestion
  | .volume single => single.suggestions query search
  | .collection ⟨_, _, .active members⟩ =>
    (Suggestion.merge (suggestionsOfEach query search.unbounded members)).take search.limit
  | .collection ⟨_, _, .closed⟩ => []

def suggestionsOfEach (query : String) (search : Search) :
    List Dictionary → List (List Suggestion)
  | [] => []
  | member :: rest =>
    member.suggestions query search :: suggestionsOfEach query search rest

end

/-- Closes the dictionary. What a collection releases is closed with it and kept by nobody. -/
def close : Dictionary → Dictionary
  | .volume single => .volume single.close
  | .collection group => .collection group.close.1

theorem anyValid_eq (members : List Dictionary) : anyValid members = members.any isValid := by
  induction members with
  | nil => rfl
  | cons member rest ih => rw [anyValid, List.any_cons, ih]

theorem anyContains_eq (word : String) (members : List Dictionary) :
    anyContains word members = members.any (contains word) := by
  induction members with
  | nil => rfl
  | cons member rest ih => rw [anyContains, List.any_cons, ih]

theorem suggestionsOfEach_eq (query : String) (search : Search) (members : List Dictionary) :
    suggestionsOfEach query search members = members.map (suggestions query search) := by
  induction members with
  | nil => rfl
  | cons member rest ih => rw [suggestionsOfEach, List.map_cons, ih]

theorem isValid_collection (group : Collection Dictionary) :
    isValid (.collection group) = group.members.any isValid := by
  obtain ⟨category, locale, roster⟩ := group
  cases roster with
  | active members => rw [isValid, anyValid_eq]; rfl
  | closed => rfl

theorem contains_collection (word : String) (group : Collection Dictionary) :
    contains word (.collection group) = group.members.any (contains word) := by
  obtain ⟨category, locale, roster⟩ := group
  cases roster with
  | active members => rw [contains, anyContains_eq]; rfl
  | closed => rfl

theorem frequency?_collection (word : String) (group : Collection Dictionary) :
    frequency? word (.collection group) = largestFrequency? word group.members := by
  obtain ⟨category, locale, roster⟩ := group
  cases roster with
  | active members => rw [frequency?]; rfl
  | closed => rfl

theorem suggestions_collection (query : String) (search : Search)
    (group : Collection Dictionary) :
    suggestions query search (.collection group) =
      (Suggestion.merge (group.members.map (suggestions query search.unbounded))).take
        search.limit := by
  obtain ⟨category, locale, roster⟩ := group
  cases roster with
  | active members => rw [suggestions, suggestionsOfEach_eq]; rfl
  | closed =>
    change [] = (Suggestion.merge []).take search.limit
    rw [Suggestion.merge_nil, List.take_nil]

end Dictionary

namespace Collection

def largestFrequency? (collection : Collection Dictionary) (word : String) : Option Nat :=
  Dictionary.largestFrequency? word collection.members

end Collection

end Lexicon
