import Mathlib.Data.List.Count
import Mathlib.Data.List.Nodup
import Lexicon.Json.Record
import Lexicon.Proofs.Entries

/-!
# Reading records

What a record gives to its fields. An object gives to each field what stands under its name, whatever
the order of its members and whatever else it has; an array gives values to the fields in their declared
order, as far as it reaches.
-/

set_option autoImplicit false

namespace Lexicon.Json

theorem ofMembers_injective {left right : List (String × Json)}
    (same : ofMembers left = ofMembers right) : left = right := by
  rw [ofMembers, ofMembers, object.injEq] at same
  refine List.map_injective_iff.2 ?_ same
  intro first second equal
  cases first
  cases second
  cases equal
  rfl

theorem lookup_some (members : List (String × Json)) (field : String) :
    (members.map fun (key, value) => (some key, value)).lookup (some field) =
      members.lookup field := by
  induction members with
  | nil => rfl
  | cons member rest ih =>
    obtain ⟨key, value⟩ := member
    rw [List.map_cons, List.lookup_cons, List.lookup_cons, ih]
    rfl

/-- An object is a record if each field stands in it once at most, whatever else does. -/
theorem record?_ofMembers {fields : List String} {members : List (String × Json)}
    (once : ∀ field ∈ fields, (members.map Prod.fst).count field ≤ 1) :
    (ofMembers members).record? fields = some ⟨fun field => members.lookup field⟩ := by
  have keys : (members.map fun (key, value) => (some key, value)).map Prod.fst =
      (members.map Prod.fst).map some := by
    rw [List.map_map, List.map_map]
    rfl
  simp only [ofMembers, record?, lookup_some]
  refine if_pos ⟨?_, ?_⟩
  · rw [keys, List.all_map]
    exact List.all_eq_true.2 fun _ _ => rfl
  · rw [List.all_eq_true]
    intro field declared
    rw [keys, List.count_map_of_injective _ _ fun _ _ => Option.some.inj]
    exact decide_eq_true (once field declared)

/-- Members with other names do not get in the way of the fields, and neither does the order. -/
theorem exists_record_of_object {fields : List String} {known unknown members : List (String × Json)}
    (distinct : (known.map Prod.fst).Nodup) (named : ∀ entry ∈ known, entry.1 ∈ fields)
    (foreign : ∀ entry ∈ unknown, entry.1 ∉ fields) (order : members.Perm (known ++ unknown)) :
    ∃ record, (ofMembers members).record? fields = some record ∧
      ∀ field ∈ fields, record.value? field = known.lookup field := by
  -- A foreign key may stand in the object several times, so only the own members are compared.
  have own : known.Perm (members.filter fun entry => decide (entry.1 ∈ fields)) := by
    have split := order.filter fun entry => decide (entry.1 ∈ fields)
    have all : known.filter (fun entry => decide (entry.1 ∈ fields)) = known := by
      rw [List.filter_eq_self]
      intro entry member
      exact decide_eq_true (named entry member)
    have nothing : unknown.filter (fun entry => decide (entry.1 ∈ fields)) = [] := by
      rw [List.filter_eq_nil_iff]
      intro entry member
      simpa using foreign entry member
    rw [List.filter_append, all, nothing, List.append_nil] at split
    exact split.symm
  refine ⟨_, record?_ofMembers ?_, ?_⟩
  · intro field declared
    have absent : (unknown.map Prod.fst).count field = 0 := by
      rw [List.count_eq_zero, List.mem_map]
      intro ⟨entry, member, same⟩
      exact foreign entry member (same ▸ declared)
    rw [(order.map Prod.fst).count_eq, List.map_append, List.count_append, absent]
    exact List.nodup_iff_count.1 distinct field
  · intro field declared
    have narrowed := Entries.lookup_filter_keys members (fun key => decide (key ∈ fields)) field
    rw [if_pos (decide_eq_true declared)] at narrowed
    exact narrowed.symm.trans (Entries.lookup_of_perm own distinct field).symm

theorem zip_take (fields : List String) (values : List Json) (count : Nat) :
    fields.zip (values.take count) = (fields.zip values).take count := by
  induction fields generalizing values count with
  | nil => simp
  | cons field rest ih => cases values <;> cases count <;> simp [ih]

/-- An array gives a value to each field that it reaches. -/
theorem exists_record_of_array (fields : List String) (values : List Json)
    (fitting : values.length = fields.length) (count : Nat) :
    ∃ record, (array (values.take count)).record? fields = some record ∧
      ∀ field, record.value? field =
        if field ∈ fields.take count then (fields.zip values).lookup field else none := by
  refine ⟨⟨fun field => (fields.zip (values.take count)).lookup field⟩, ?_, ?_⟩
  · rw [record?]
    refine if_pos ?_
    rw [List.length_take, ← fitting]
    exact Nat.min_le_right count values.length
  · intro field
    have names : (fields.zip values).map Prod.fst = fields :=
      List.map_fst_zip (Nat.le_of_eq fitting.symm)
    change (fields.zip (values.take count)).lookup field = _
    rw [zip_take, Entries.lookup_take, names]

/-- A field that has a default gets it exactly if it is left out. -/
theorem Record.getD?_of_value? {α : Type} {record : Record} {field : String} {omitted : Bool}
    {json : Json} {read : Json → Option α} {value : α} (fallback : α)
    (given : record.value? field = if omitted then none else some json)
    (reads : read json = some value) :
    record.getD? field read fallback = some (if omitted then fallback else value) := by
  rw [getD?, given]
  cases omitted with
  | true => rfl
  | false => exact reads

end Lexicon.Json
