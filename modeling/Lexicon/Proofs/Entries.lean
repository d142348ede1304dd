/-!
# Entries under keys

Lists of keys with values, in which a look-up finds the first entry of a key. Where the keys are
distinct, a look-up finds whatever stands in the list, and so the order of the list does not matter.
-/

set_option autoImplicit false

namespace Lexicon.Entries

variable {κ α : Type} [BEq κ] [LawfulBEq κ]

theorem lookup_eq_some_iff_mem {entries : List (κ × α)} (distinct : (entries.map Prod.fst).Nodup)
    {key : κ} {value : α} : entries.lookup key = some value ↔ (key, value) ∈ entries := by
  induction entries with
  | nil => simp
  | cons entry rest ih =>
    obtain ⟨held, known⟩ := entry
    obtain ⟨fresh, later⟩ := List.nodup_cons.1 distinct
    by_cases same : key = held
    · subst same
      have absent : (key, value) ∉ rest := by
        intro member
        exact fresh (List.mem_map.2 ⟨_, member, rfl⟩)
      simp [absent, eq_comm]
    · simp [List.lookup_cons, beq_eq_false_iff_ne.2 same, same, ih later]

theorem lookup_isSome_iff_mem {entries : List (κ × α)} {key : κ} :
    (entries.lookup key).isSome = true ↔ key ∈ entries.map Prod.fst := by
  rw [List.lookup_isSome_iff, List.mem_map]
  constructor
  · rintro ⟨entry, member, same⟩
    exact ⟨entry, member, (eq_of_beq same).symm⟩
  · rintro ⟨entry, member, rfl⟩
    exact ⟨entry, member, beq_self_eq_true _⟩

theorem lookup_of_perm {left right : List (κ × α)} (same : left.Perm right)
    (distinct : (left.map Prod.fst).Nodup) (key : κ) : left.lookup key = right.lookup key := by
  have alsoDistinct : (right.map Prod.fst).Nodup := (same.map Prod.fst).nodup_iff.1 distinct
  apply Option.ext
  intro value
  rw [lookup_eq_some_iff_mem distinct, lookup_eq_some_iff_mem alsoDistinct, same.mem_iff]

theorem lookup_filter_keys (entries : List (κ × α)) (keeps : κ → Bool) (key : κ) :
    (entries.filter fun entry => keeps entry.1).lookup key =
      if keeps key then entries.lookup key else none := by
  induction entries with
  | nil => simp
  | cons entry rest ih =>
    obtain ⟨held, value⟩ := entry
    by_cases here : key = held
    · subst here
      cases kept : keeps key with
      | true => simp [kept]
      | false =>
        rw [kept] at ih
        simpa [kept] using ih
    · have passed : ((held, value) :: rest).lookup key = rest.lookup key := by
        rw [List.lookup_cons, beq_eq_false_iff_ne.2 here]
      rw [passed, ← ih]
      cases kept : keeps held with
      | true => simp [kept, List.lookup_cons, beq_eq_false_iff_ne.2 here]
      | false => simp [kept]

theorem lookup_take (entries : List (κ × α)) (count : Nat) (key : κ) :
    (entries.take count).lookup key =
      if key ∈ (entries.map Prod.fst).take count then entries.lookup key else none := by
  induction entries generalizing count with
  | nil => simp
  | cons entry rest ih =>
    obtain ⟨held, value⟩ := entry
    cases count with
    | zero => simp
    | succ count =>
      rw [List.take_succ_cons, List.map_cons, List.take_succ_cons, List.lookup_cons,
        List.lookup_cons, ih]
      by_cases here : key = held
      · simp [here]
      · simp [here, beq_eq_false_iff_ne.2 here]

end Lexicon.Entries
