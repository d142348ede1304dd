import Lexicon.Json.Basic

/-!
# Records in JSON

A record is written as an object that names its fields in any order, or as an array that gives them
in their declared order and may stop early. Unknown keys are ignored. A known key that stands twice,
a key that is no Unicode text and an array with more elements than fields make the value no record.
-/

set_option autoImplicit false

namespace Lexicon.Json

/-- The values that a record gives to its fields. -/
structure Record where
  value? : String → Option Json

/-- Reads a value as a record with the given fields. -/
def record? (fields : List String) : Json → Option Record
  | .object members =>
    let keys := members.map Prod.fst
    if keys.all Option.isSome ∧ fields.all (fun field => keys.count (some field) ≤ 1) then
      some ⟨fun field => members.lookup (some field)⟩
    else
      none
  | .array values =>
    if values.length ≤ fields.length then some ⟨fun field => (fields.zip values).lookup field⟩
    else none
  | _ => none

namespace Record

variable {α : Type}

def required? (record : Record) (field : String) (read : Json → Option α) : Option α :=
  (record.value? field).bind read

/-- A field that has a default. A value of the wrong form is not replaced by the default. -/
def getD? (record : Record) (field : String) (read : Json → Option α) (fallback : α) : Option α :=
  match record.value? field with
  | none => some fallback
  | some value => read value

end Record

end Lexicon.Json
