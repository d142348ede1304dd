/-!
# JSON values

The value of a JSON text as far as records are decoded from it. Of numbers only the natural ones below
2^64, written without fraction, exponent or sign, are told apart; nothing reads any other. A string
whose escapes or bytes form no Unicode text is kept as such: it does no harm where nobody reads it.

The members of an object stand in written order, repeats included.
-/

set_option autoImplicit false

namespace Lexicon

/-- A JSON value. A key that is no Unicode text is `none`. -/
inductive Json where
  | null
  | bool (value : Bool)
  | natural (value : UInt64)
  /-- A number of any other form. -/
  | number
  | string (text : String)
  /-- A string that is no Unicode text. -/
  | garbled
  | array (values : List Json)
  | object (members : List (Option String × Json))

namespace Json

def ofMembers (members : List (String × Json)) : Json :=
  .object (members.map fun (key, value) => (some key, value))

def ofOption : Option Json → Json
  | none => .null
  | some value => value

def bool? : Json → Option Bool
  | .bool value => some value
  | _ => none

def natural? : Json → Option UInt64
  | .natural value => some value
  | _ => none

def string? : Json → Option String
  | .string text => some text
  | _ => none

def array? : Json → Option (List Json)
  | .array values => some values
  | _ => none

/-- The value of a key in an object, the first if the key is repeated. -/
def get? (value : Json) (key : String) : Option Json :=
  match value with
  | .object members => members.lookup (some key)
  | _ => none

/-- What a value may be absent for: null, or a value of the given form. -/
def nullable? {α : Type} (read : Json → Option α) : Json → Option (Option α)
  | .null => some none
  | value => (read value).map some

def lastOfEach : List (Option String × Json) → List (Option String × Json)
  | [] => []
  | (key, value) :: rest =>
    if rest.any fun later => later.1 == key then lastOfEach rest
    else (key, value) :: lastOfEach rest

mutual

/-- The value in which, at every depth, the last member of a key has replaced the earlier ones. -/
def merged : Json → Json
  | .array values => .array (mergedValues values)
  | .object members => .object (lastOfEach (mergedMembers members))
  | value => value

def mergedValues : List Json → List Json
  | [] => []
  | value :: rest => value.merged :: mergedValues rest

def mergedMembers : List (Option String × Json) → List (Option String × Json)
  | [] => []
  | (key, value) :: rest => (key, value.merged) :: mergedMembers rest

end

end Json

end Lexicon
