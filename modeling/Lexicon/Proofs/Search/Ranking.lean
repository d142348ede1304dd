import Lexicon.Search
import Lexicon.Sorting
import Mathlib.Data.List.Nodup

/-!
# Ranked suggestions

Suggestions are sorted stably, so a sorted list is known by what it holds of each frequency, in order.
From this come the laws of merging: it commutes with every choice among the words, and it makes no
difference whether parts of the list were merged before.
-/

set_option autoImplicit false

namespace Lexicon.Suggestion

/-! ## Sorting by frequency -/

def Falling (suggestions : List Suggestion) : Prop :=
  suggestions.Pairwise fun first second => second.frequency ≤ first.frequency

def atFrequency (frequency : Nat) (suggestions : List Suggestion) : List Suggestion :=
  suggestions.filter fun suggestion => suggestion.frequency = frequency

theorem perm_byFrequency (suggestions : List Suggestion) :
    (byFrequency suggestions).Perm suggestions :=
  List.mergeSort_perm _ _

theorem byFrequency_eq_sort (suggestions : List Suggestion) :
    byFrequency suggestions = Sorting.sort .falling Suggestion.frequency suggestions :=
  rfl

theorem atFrequency_eq_level (frequency : Nat) (suggestions : List Suggestion) :
    atFrequency frequency suggestions = Sorting.level Suggestion.frequency frequency suggestions :=
  rfl

theorem falling_iff {suggestions : List Suggestion} :
    Falling suggestions ↔ Sorting.IsSorted .falling frequency suggestions :=
  ⟨List.Pairwise.imp decide_eq_true, List.Pairwise.imp of_decide_eq_true⟩

theorem falling_byFrequency (suggestions : List Suggestion) : Falling (byFrequency suggestions) :=
  falling_iff.2 (Sorting.isSorted_sort suggestions)

theorem atFrequency_append (frequency : Nat) (left right : List Suggestion) :
    atFrequency frequency (left ++ right) =
      atFrequency frequency left ++ atFrequency frequency right :=
  Sorting.level_append frequency left right

theorem atFrequency_cons_of_eq {frequency : Nat} {first : Suggestion}
    (asked : first.frequency = frequency) (rest : List Suggestion) :
    atFrequency frequency (first :: rest) = first :: atFrequency frequency rest :=
  Sorting.level_cons_of_eq asked rest

/-- Sorting leaves the suggestions of one frequency in their order. -/
theorem atFrequency_byFrequency (frequency : Nat) (suggestions : List Suggestion) :
    atFrequency frequency (byFrequency suggestions) = atFrequency frequency suggestions := by
  rw [atFrequency_eq_level, byFrequency_eq_sort, Sorting.level_sort, atFrequency_eq_level]

/-- A sorted list is known by what it holds of each frequency. -/
theorem eq_of_atFrequency_eq {left right : List Suggestion} (leftFalling : Falling left)
    (rightFalling : Falling right)
    (same : ∀ frequency, atFrequency frequency left = atFrequency frequency right) :
    left = right :=
  Sorting.eq_of_level_eq (falling_iff.1 leftFalling) (falling_iff.1 rightFalling) same

theorem byFrequency_congr {left right : List Suggestion}
    (same : ∀ frequency, atFrequency frequency left = atFrequency frequency right) :
    byFrequency left = byFrequency right := by
  rw [byFrequency_eq_sort, Sorting.sort_congr same, byFrequency_eq_sort]

theorem byFrequency_of_falling {suggestions : List Suggestion} (falling : Falling suggestions) :
    byFrequency suggestions = suggestions :=
  Sorting.sort_of_isSorted (falling_iff.1 falling)

theorem byFrequency_filter (keeps : Suggestion → Bool) (suggestions : List Suggestion) :
    byFrequency (suggestions.filter keeps) = (byFrequency suggestions).filter keeps := by
  apply eq_of_atFrequency_eq (falling_byFrequency _)
  · exact (falling_byFrequency suggestions).filter keeps
  · intro frequency
    rw [atFrequency_byFrequency, atFrequency, atFrequency, List.filter_comm, ← atFrequency,
      List.filter_comm, ← atFrequency, atFrequency_byFrequency]

theorem byFrequency_append_left (left right : List Suggestion) :
    byFrequency (byFrequency left ++ right) = byFrequency (left ++ right) := by
  apply byFrequency_congr
  intro frequency
  rw [atFrequency_append, atFrequency_append, atFrequency_byFrequency]

theorem byFrequency_append_right (left right : List Suggestion) :
    byFrequency (left ++ byFrequency right) = byFrequency (left ++ right) := by
  apply byFrequency_congr
  intro frequency
  rw [atFrequency_append, atFrequency_append, atFrequency_byFrequency]

/-! ## The first entry of each word -/

def wordsOf (suggestions : List Suggestion) : List String :=
  suggestions.map Suggestion.word

/-- The entries for words that do not occur in a list. -/
def exceptWords (words : List String) (suggestions : List Suggestion) : List Suggestion :=
  suggestions.filter fun suggestion => !words.contains suggestion.word

/-- The entries for words that do occur in it. -/
def onlyWords (words : List String) (suggestions : List Suggestion) : List Suggestion :=
  suggestions.filter fun suggestion => words.contains suggestion.word

theorem mem_wordsOf_firstOfEach {word : String} {suggestions : List Suggestion} :
    word ∈ wordsOf (firstOfEach suggestions) ↔ word ∈ wordsOf suggestions := by
  induction suggestions with
  | nil => rfl
  | cons first rest ih =>
    simp only [wordsOf, firstOfEach, List.map_cons, List.mem_cons, List.mem_map,
      List.mem_filter, bne_iff_ne] at ih ⊢
    constructor
    · rintro (here | ⟨later, ⟨among, _⟩, named⟩)
      · exact .inl here
      · exact .inr (ih.1 ⟨later, among, named⟩)
    · rintro (here | held)
      · exact .inl here
      · obtain ⟨later, among, named⟩ := ih.2 held
        by_cases same : later.word = first.word
        · exact .inl (named.symm.trans same)
        · exact .inr ⟨later, ⟨among, same⟩, named⟩

theorem nodup_firstOfEach (suggestions : List Suggestion) :
    (wordsOf (firstOfEach suggestions)).Nodup := by
  induction suggestions with
  | nil => exact List.nodup_nil
  | cons first rest ih =>
    rw [firstOfEach, wordsOf, List.map_cons, List.nodup_cons]
    constructor
    · intro repeated
      obtain ⟨later, among, same⟩ := List.mem_map.1 repeated
      exact bne_iff_ne.1 (List.mem_filter.1 among).2 same
    · exact (List.filter_sublist.map Suggestion.word).nodup ih

theorem firstOfEach_of_nodup {suggestions : List Suggestion}
    (distinct : (wordsOf suggestions).Nodup) : firstOfEach suggestions = suggestions := by
  induction suggestions with
  | nil => rfl
  | cons first rest ih =>
    obtain ⟨fresh, restDistinct⟩ := List.nodup_cons.1 distinct
    rw [firstOfEach, ih restDistinct, List.filter_eq_self.2]
    intro later among
    rw [bne_iff_ne]
    intro same
    exact fresh (same ▸ List.mem_map_of_mem among)

theorem firstOfEach_filter (keeps : String → Bool) (suggestions : List Suggestion) :
    firstOfEach (suggestions.filter fun suggestion => keeps suggestion.word) =
      (firstOfEach suggestions).filter fun suggestion => keeps suggestion.word := by
  induction suggestions with
  | nil => rfl
  | cons first rest ih =>
    let chooses : Suggestion → Bool := fun suggestion => keeps suggestion.word
    change firstOfEach (rest.filter chooses) = (firstOfEach rest).filter chooses at ih
    change firstOfEach ((first :: rest).filter chooses) = (firstOfEach (first :: rest)).filter chooses
    by_cases kept : chooses first = true
    · rw [List.filter_cons_of_pos kept, firstOfEach, firstOfEach, ih, List.filter_cons_of_pos kept,
        List.filter_comm]
    · -- A later entry that is kept has another word than the first, which is not.
      have dropped : ((firstOfEach rest).filter fun later => later.word != first.word).filter
          chooses = (firstOfEach rest).filter chooses := by
        rw [List.filter_filter]
        apply List.filter_congr
        intro later _
        cases chosen : chooses later with
        | false => rfl
        | true =>
          have different : later.word ≠ first.word := by
            intro same
            exact kept ((congrArg keeps same).symm.trans chosen)
          rw [Bool.true_and, bne_iff_ne]
          exact different
      rw [List.filter_cons_of_neg kept, firstOfEach, ih, List.filter_cons_of_neg kept, dropped]

theorem firstOfEach_append (left right : List Suggestion) :
    firstOfEach (left ++ right) =
      firstOfEach left ++ exceptWords (wordsOf left) (firstOfEach right) := by
  induction left with
  | nil =>
    rw [List.nil_append, exceptWords, List.filter_eq_self.2]
    · rfl
    · intro suggestion _
      rfl
  | cons first rest ih =>
    rw [List.cons_append, firstOfEach, ih, firstOfEach, List.filter_append, List.cons_append,
      exceptWords, exceptWords, List.filter_filter]
    congr 2
    apply List.filter_congr
    intro later _
    rw [wordsOf, wordsOf, List.map_cons, List.contains_cons, Bool.not_or]
    rfl

/-! ## Merging -/

/-- One list put in the order of a merged one. -/
def ranked (suggestions : List Suggestion) : List Suggestion :=
  byFrequency (firstOfEach suggestions)

theorem merge_eq_ranked (lists : List (List Suggestion)) : merge lists = ranked lists.flatten :=
  rfl

theorem length_ranked_le (suggestions : List Suggestion) :
    (ranked suggestions).length ≤ suggestions.length := by
  rw [ranked, (perm_byFrequency _).length_eq]
  induction suggestions with
  | nil => exact Nat.le_refl 0
  | cons first rest ih =>
    rw [firstOfEach, List.length_cons, List.length_cons]
    exact Nat.succ_le_succ (Nat.le_trans (List.length_filter_le _ _) ih)

theorem wordsOf_ranked_perm (suggestions : List Suggestion) :
    (wordsOf (ranked suggestions)).Perm (wordsOf (firstOfEach suggestions)) :=
  (perm_byFrequency _).map Suggestion.word

theorem mem_wordsOf_ranked {word : String} {suggestions : List Suggestion} :
    word ∈ wordsOf (ranked suggestions) ↔ word ∈ wordsOf suggestions := by
  rw [(wordsOf_ranked_perm suggestions).mem_iff, mem_wordsOf_firstOfEach]

theorem nodup_ranked (suggestions : List Suggestion) : (wordsOf (ranked suggestions)).Nodup :=
  (wordsOf_ranked_perm suggestions).nodup_iff.2 (nodup_firstOfEach suggestions)

theorem ranked_of_falling {suggestions : List Suggestion}
    (distinct : (wordsOf suggestions).Nodup) (falling : Falling suggestions) :
    ranked suggestions = suggestions := by
  rw [ranked, firstOfEach_of_nodup distinct, byFrequency_of_falling falling]

theorem ranked_filter (keeps : String → Bool) (suggestions : List Suggestion) :
    ranked (suggestions.filter fun suggestion => keeps suggestion.word) =
      (ranked suggestions).filter fun suggestion => keeps suggestion.word := by
  rw [ranked, firstOfEach_filter, byFrequency_filter, ← ranked]

theorem exceptWords_congr {words others : List String}
    (same : ∀ word, word ∈ words ↔ word ∈ others) (suggestions : List Suggestion) :
    exceptWords words suggestions = exceptWords others suggestions := by
  apply List.filter_congr
  intro suggestion _
  have alike : words.contains suggestion.word = others.contains suggestion.word := by
    rw [Bool.eq_iff_iff, List.contains_iff_mem, List.contains_iff_mem]
    exact same suggestion.word
  rw [alike]

theorem ranked_append_left (left right : List Suggestion) :
    ranked (ranked left ++ right) = ranked (left ++ right) := by
  rw [ranked, firstOfEach_append, firstOfEach_of_nodup (nodup_ranked left),
    exceptWords_congr fun word => mem_wordsOf_ranked, ranked, byFrequency_append_left,
    ← firstOfEach_append, ← ranked]

theorem ranked_append_right (left right : List Suggestion) :
    ranked (left ++ ranked right) = ranked (left ++ right) := by
  rw [ranked, firstOfEach_append, firstOfEach_of_nodup (nodup_ranked right), exceptWords, ranked,
    ← byFrequency_filter, byFrequency_append_right, ← exceptWords, ← firstOfEach_append, ← ranked]

theorem onlyWords_wordsOf (suggestions : List Suggestion) :
    onlyWords (wordsOf suggestions) suggestions = suggestions := by
  rw [onlyWords, List.filter_eq_self]
  intro suggestion among
  rw [List.contains_iff_mem]
  exact List.mem_map_of_mem among

theorem exceptWords_wordsOf (suggestions : List Suggestion) :
    exceptWords (wordsOf suggestions) suggestions = [] := by
  rw [exceptWords, List.filter_eq_nil_iff]
  intro suggestion among
  have named : suggestion.word ∈ wordsOf suggestions := List.mem_map_of_mem among
  simp [named]

theorem exceptWords_onlyWords (words : List String) (suggestions : List Suggestion) :
    exceptWords words (onlyWords words suggestions) = [] := by
  simp [exceptWords, onlyWords, List.filter_filter]

/-- What is put behind a list changes nothing about the words of the list. -/
theorem onlyWords_ranked_append (left right : List Suggestion) :
    onlyWords (wordsOf left) (ranked (left ++ right)) = ranked left := by
  rw [onlyWords, ← ranked_filter fun word => (wordsOf left).contains word, List.filter_append,
    ← onlyWords, ← onlyWords, onlyWords_wordsOf, ranked, firstOfEach_append, onlyWords,
    firstOfEach_filter fun word => (wordsOf left).contains word, ← onlyWords,
    exceptWords_onlyWords, List.append_nil, ranked]

/-- And the list changes nothing about other words. -/
theorem exceptWords_ranked_append (left right : List Suggestion) :
    exceptWords (wordsOf left) (ranked (left ++ right)) =
      exceptWords (wordsOf left) (ranked right) := by
  rw [exceptWords, ← ranked_filter fun word => !(wordsOf left).contains word, List.filter_append,
    ← exceptWords, exceptWords_wordsOf, List.nil_append,
    ranked_filter fun word => !(wordsOf left).contains word, ← exceptWords]

theorem ranked_ranked (suggestions : List Suggestion) :
    ranked (ranked suggestions) = ranked suggestions :=
  ranked_of_falling (nodup_ranked suggestions) (falling_byFrequency _)

/-- It makes no difference whether the parts of a list are ranked before the whole. -/
theorem ranked_flatMap_ranked {α : Type} (parts : List α) (suggestions : α → List Suggestion) :
    ranked (parts.flatMap fun part => ranked (suggestions part)) =
      ranked (parts.flatMap suggestions) := by
  induction parts with
  | nil => rfl
  | cons part rest ih =>
    rw [List.flatMap_cons, List.flatMap_cons, ranked_append_left, ← ranked_append_right, ih,
      ranked_append_right]

end Lexicon.Suggestion
