import Lexicon.Proofs.Search.Ranking

/-!
# Merging lists of suggestions

Where the entries of a merged list come from. Of every word that some list has, the merged list holds
the entry that stands first: the first list that has the word decides, and within it the first place.
The most frequent entries come first, and entries of one frequency stand in the order of these places,
the list counting before the place in it.
-/

set_option autoImplicit false

namespace Lexicon.Suggestion

/-! ## First entries in one list -/

/-- A suggestion stands at a place of a list, and its word not before it. -/
structure FirstIn (list : List Suggestion) (suggestion : Suggestion) (place : Nat) : Prop where
  stands : list[place]? = some suggestion
  fresh : suggestion.word ∉ wordsOf (list.take place)

theorem FirstIn.mem_wordsOf {list : List Suggestion} {suggestion : Suggestion} {place : Nat}
    (stands : FirstIn list suggestion place) : suggestion.word ∈ wordsOf list :=
  List.mem_map_of_mem (List.mem_of_getElem? stands.stands)

theorem firstIn_cons_zero {first suggestion : Suggestion} {rest : List Suggestion} :
    FirstIn (first :: rest) suggestion 0 ↔ suggestion = first := by
  constructor
  · intro ⟨stands, _⟩
    exact (Option.some.inj stands).symm
  · intro same
    exact ⟨congrArg some same.symm, List.not_mem_nil⟩

theorem firstIn_cons_succ {first suggestion : Suggestion} {rest : List Suggestion} {place : Nat} :
    FirstIn (first :: rest) suggestion (place + 1) ↔
      suggestion.word ≠ first.word ∧ FirstIn rest suggestion place := by
  have apart : suggestion.word ∉ wordsOf ((first :: rest).take (place + 1)) ↔
      suggestion.word ≠ first.word ∧ suggestion.word ∉ wordsOf (rest.take place) := by
    rw [List.take_succ_cons, wordsOf, List.map_cons, List.mem_cons, not_or]
    rfl
  constructor
  · rintro ⟨stands, fresh⟩
    obtain ⟨other, fresh⟩ := apart.1 fresh
    exact ⟨other, stands, fresh⟩
  · rintro ⟨other, stands, fresh⟩
    exact ⟨stands, apart.2 ⟨other, fresh⟩⟩

theorem mem_firstOfEach_iff {suggestion : Suggestion} {list : List Suggestion} :
    suggestion ∈ firstOfEach list ↔ ∃ place, FirstIn list suggestion place := by
  induction list with
  | nil =>
    constructor
    · intro among
      cases among
    · intro ⟨place, stands, _⟩
      cases stands
  | cons first rest ih =>
    rw [firstOfEach, List.mem_cons, List.mem_filter, bne_iff_ne, ih]
    constructor
    · rintro (here | ⟨⟨place, stands⟩, other⟩)
      · exact ⟨0, firstIn_cons_zero.2 here⟩
      · exact ⟨place + 1, firstIn_cons_succ.2 ⟨other, stands⟩⟩
    · rintro ⟨_ | place, stands⟩
      · exact .inl (firstIn_cons_zero.1 stands)
      · obtain ⟨other, stands⟩ := firstIn_cons_succ.1 stands
        exact .inr ⟨⟨place, stands⟩, other⟩

theorem pairwise_firstOfEach (list : List Suggestion) :
    (firstOfEach list).Pairwise fun first second => ∀ place later,
      FirstIn list first place → FirstIn list second later → place < later := by
  induction list with
  | nil => exact List.Pairwise.nil
  | cons first rest ih =>
    rw [firstOfEach, List.pairwise_cons]
    constructor
    · intro second among place later stands standsLater
      have other : second.word ≠ first.word := bne_iff_ne.1 (List.mem_filter.1 among).2
      cases place with
      | succ place => exact absurd rfl (firstIn_cons_succ.1 stands).1
      | zero =>
        cases later with
        | zero => exact absurd (congrArg word (firstIn_cons_zero.1 standsLater)) other
        | succ later => exact Nat.succ_pos later
    · refine (ih.filter _).imp_of_mem ?_
      intro second third among alsoAmong ordered place later stands standsLater
      have other : second.word ≠ first.word := bne_iff_ne.1 (List.mem_filter.1 among).2
      have alsoOther : third.word ≠ first.word := bne_iff_ne.1 (List.mem_filter.1 alsoAmong).2
      cases place with
      | zero => exact absurd (congrArg word (firstIn_cons_zero.1 stands)) other
      | succ place =>
        cases later with
        | zero => exact absurd (congrArg word (firstIn_cons_zero.1 standsLater)) alsoOther
        | succ later =>
          exact Nat.succ_lt_succ (ordered place later (firstIn_cons_succ.1 stands).2
            (firstIn_cons_succ.1 standsLater).2)

/-! ## First entries in several lists -/

/-- A suggestion stands first for its word in one of several lists, and no list before that one has
the word. -/
structure FirstAmong (lists : List (List Suggestion)) (suggestion : Suggestion)
    (index place : Nat) : Prop where
  stands : ∃ list, lists[index]? = some list ∧ FirstIn list suggestion place
  fresh : ∀ earlier ∈ lists.take index, suggestion.word ∉ wordsOf earlier

/-- One suggestion stands before another one: in an earlier list, or earlier in the same list. -/
def StandsBefore (lists : List (List Suggestion)) (first second : Suggestion) : Prop :=
  ∀ index place laterIndex laterPlace, FirstAmong lists first index place →
    FirstAmong lists second laterIndex laterPlace →
      index < laterIndex ∨ index = laterIndex ∧ place < laterPlace

section Cons

variable {list : List Suggestion} {rest : List (List Suggestion)} {suggestion : Suggestion}
  {index place : Nat}

theorem firstAmong_cons_zero :
    FirstAmong (list :: rest) suggestion 0 place ↔ FirstIn list suggestion place := by
  constructor
  · intro ⟨⟨other, same, stands⟩, _⟩
    cases same
    exact stands
  · intro stands
    exact ⟨⟨list, rfl, stands⟩, List.forall_mem_nil _⟩

theorem firstAmong_cons_succ :
    FirstAmong (list :: rest) suggestion (index + 1) place ↔
      suggestion.word ∉ wordsOf list ∧ FirstAmong rest suggestion index place := by
  constructor
  · intro ⟨stands, fresh⟩
    rw [List.take_succ_cons] at fresh
    obtain ⟨absent, fresh⟩ := List.forall_mem_cons.1 fresh
    exact ⟨absent, stands, fresh⟩
  · intro ⟨absent, stands, fresh⟩
    refine ⟨stands, ?_⟩
    rw [List.take_succ_cons]
    exact List.forall_mem_cons.2 ⟨absent, fresh⟩

end Cons

theorem mem_exceptWords {words : List String} {suggestions : List Suggestion}
    {suggestion : Suggestion} :
    suggestion ∈ exceptWords words suggestions ↔
      suggestion ∈ suggestions ∧ suggestion.word ∉ words := by
  rw [exceptWords, List.mem_filter, Bool.not_eq_true', List.contains_eq_mem, decide_eq_false_iff_not]

theorem mem_firstOfEach_flatten {suggestion : Suggestion} {lists : List (List Suggestion)} :
    suggestion ∈ firstOfEach lists.flatten ↔
      ∃ index place, FirstAmong lists suggestion index place := by
  induction lists with
  | nil =>
    constructor
    · intro among
      cases among
    · intro ⟨_, _, ⟨_, absent, _⟩, _⟩
      cases absent
  | cons list rest ih =>
    rw [List.flatten_cons, firstOfEach_append, List.mem_append, mem_exceptWords, ih,
      mem_firstOfEach_iff]
    constructor
    · rintro (⟨place, stands⟩ | ⟨⟨index, place, stands⟩, absent⟩)
      · exact ⟨0, place, firstAmong_cons_zero.2 stands⟩
      · exact ⟨index + 1, place, firstAmong_cons_succ.2 ⟨absent, stands⟩⟩
    · rintro ⟨_ | index, place, stands⟩
      · exact .inl ⟨place, firstAmong_cons_zero.1 stands⟩
      · obtain ⟨absent, stands⟩ := firstAmong_cons_succ.1 stands
        exact .inr ⟨⟨index, place, stands⟩, absent⟩

theorem pairwise_firstOfEach_flatten (lists : List (List Suggestion)) :
    (firstOfEach lists.flatten).Pairwise (StandsBefore lists) := by
  induction lists with
  | nil => exact List.Pairwise.nil
  | cons list rest ih =>
    rw [List.flatten_cons, firstOfEach_append, List.pairwise_append]
    refine ⟨?_, ?_, ?_⟩
    · refine (pairwise_firstOfEach list).imp_of_mem ?_
      intro first second among alsoAmong ordered index place laterIndex later stands standsLater
      obtain ⟨_, here⟩ := mem_firstOfEach_iff.1 among
      obtain ⟨_, alsoHere⟩ := mem_firstOfEach_iff.1 alsoAmong
      cases index with
      | succ index => exact absurd here.mem_wordsOf (firstAmong_cons_succ.1 stands).1
      | zero =>
        cases laterIndex with
        | succ laterIndex =>
          exact absurd alsoHere.mem_wordsOf (firstAmong_cons_succ.1 standsLater).1
        | zero =>
          exact .inr ⟨rfl, ordered place later (firstAmong_cons_zero.1 stands)
            (firstAmong_cons_zero.1 standsLater)⟩
    · refine (ih.filter _).imp_of_mem ?_
      intro first second among alsoAmong ordered index place laterIndex later stands standsLater
      have absent := (mem_exceptWords.1 among).2
      have alsoAbsent := (mem_exceptWords.1 alsoAmong).2
      cases index with
      | zero => exact absurd (firstAmong_cons_zero.1 stands).mem_wordsOf absent
      | succ index =>
        cases laterIndex with
        | zero => exact absurd (firstAmong_cons_zero.1 standsLater).mem_wordsOf alsoAbsent
        | succ laterIndex =>
          have apart := ordered index place laterIndex later (firstAmong_cons_succ.1 stands).2
            (firstAmong_cons_succ.1 standsLater).2
          omega
    · intro first among second alsoAmong index place laterIndex later stands standsLater
      obtain ⟨_, here⟩ := mem_firstOfEach_iff.1 among
      have absent := (mem_exceptWords.1 alsoAmong).2
      cases index with
      | succ index => exact absurd here.mem_wordsOf (firstAmong_cons_succ.1 stands).1
      | zero =>
        cases laterIndex with
        | zero => exact absurd (firstAmong_cons_zero.1 standsLater).mem_wordsOf absent
        | succ laterIndex => exact .inl (Nat.succ_pos laterIndex)

/-! ## Merged lists -/

/-- Sorting by frequency keeps whatever order there was among entries of one frequency. -/
theorem pairwise_byFrequency {related : Suggestion → Suggestion → Prop}
    {suggestions : List Suggestion} (ordered : suggestions.Pairwise related) :
    (byFrequency suggestions).Pairwise fun first second =>
      second.frequency ≤ first.frequency ∧
        (second.frequency = first.frequency → related first second) := by
  refine (falling_byFrequency suggestions).and ?_
  rw [List.pairwise_iff_forall_sublist]
  intro first second within level
  have leveled := within.filter fun suggestion => decide (suggestion.frequency = first.frequency)
  change (atFrequency first.frequency [first, second]).Sublist
    (atFrequency first.frequency (byFrequency suggestions)) at leveled
  rw [atFrequency_cons_of_eq rfl, atFrequency_cons_of_eq level] at leveled
  rw [atFrequency_byFrequency] at leveled
  exact List.pairwise_iff_forall_sublist.1 ordered (leveled.trans List.filter_sublist)

/-- What a list merged from several ones holds, and in which order. -/
structure Merged (lists : List (List Suggestion)) (whole : List Suggestion) : Prop where
  distinct : (wordsOf whole).Nodup
  words : ∀ word, word ∈ wordsOf whole ↔ ∃ list ∈ lists, word ∈ wordsOf list
  /-- The entry of a word is the one that stands first. -/
  entries : ∀ suggestion, suggestion ∈ whole ↔
    ∃ index place, FirstAmong lists suggestion index place
  /-- Frequencies fall, and equal ones follow the lists and the places in them. -/
  order : whole.Pairwise fun first second =>
    second.frequency ≤ first.frequency ∧
      (second.frequency = first.frequency → StandsBefore lists first second)

theorem merged_merge (lists : List (List Suggestion)) : Merged lists (merge lists) where
  distinct := nodup_ranked lists.flatten
  words := by
    intro word
    rw [merge_eq_ranked, mem_wordsOf_ranked, wordsOf, List.map_flatten, List.mem_flatten]
    constructor
    · rintro ⟨words, among, named⟩
      obtain ⟨list, member, rfl⟩ := List.mem_map.1 among
      exact ⟨list, member, named⟩
    · rintro ⟨list, member, named⟩
      exact ⟨wordsOf list, List.mem_map_of_mem member, named⟩
  entries := by
    intro suggestion
    rw [merge, (perm_byFrequency _).mem_iff]
    exact mem_firstOfEach_flatten
  order := pairwise_byFrequency (pairwise_firstOfEach_flatten lists)

end Lexicon.Suggestion
