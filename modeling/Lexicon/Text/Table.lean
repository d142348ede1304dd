/-!
# Tables written as text

Data of the Unicode standard is kept in rows of text: entries with a blank between them, codes in
hexadecimal, ranges as `first-last`.
-/

set_option autoImplicit false

namespace Lexicon.Text.Table

def readCode (digits : List Char) : Nat :=
  digits.foldl (fun code c => 16 * code + if c.isDigit then c.toNat - 48 else c.toNat - 55) 0

def entries (rows : List String) : List (List Char) :=
  rows.flatMap fun row => row.toList.splitOn ' '

/-- The first and the last code of a range. A single code is a range of its own. -/
def range? (entry : List Char) : Option (Nat × Nat) :=
  match (entry.splitOn '-').map readCode with
  | [single] => some (single, single)
  | [first, last] => some (first, last)
  | _ => none

end Lexicon.Text.Table
