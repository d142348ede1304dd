import Lexicon.Settings.Environment
import Lexicon.Text.Alphanumeric
import Lexicon.Text.Blank
import Lexicon.Text.Utf8

/-!
# Files of environment variables

A file such as `.env` assigns values to variables, one assignment on a line:

```text
# a comment
KEY=value            # a comment after a blank
export KEY = 'taken as it stands'
KEY="may use $NAME, ${NAME} and \"escapes\""
```

A line goes on over line ends inside quotes. The first line that is not understood ends the reading;
the assignments before it count.
-/

set_option autoImplicit false

namespace Lexicon.EnvFile

/-! ## Lines -/

/-- Where a scan for the end of a line stands. -/
inductive Scan where
  /-- Outside quotes, where a line may end. -/
  | plain
  /-- After a blank outside quotes, where a comment may begin. -/
  | blank
  | escaped
  /-- Inside double quotes. -/
  | weak
  | weakEscaped
  /-- Inside single quotes. -/
  | strong
  | strongEscaped
  deriving DecidableEq, Repr

def Scan.outside (c : Char) : Scan :=
  if c = '\\' then .escaped
  else if c = '"' then .weak
  else if c = '\'' then .strong
  else .plain

/-- The state after a character. A line end is no blank that could begin a comment. -/
def Scan.next (scan : Scan) (c : Char) : Scan :=
  match scan with
  | .plain => if Text.isBlank c ∧ c ≠ '\n' ∧ c ≠ '\r' then .blank else .outside c
  | .blank => .outside c
  | .escaped => .plain
  | .weak => if c = '\\' then .weakEscaped else if c = '"' then .plain else .weak
  | .weakEscaped => .weak
  | .strong => if c = '\\' then .strongEscaped else if c = '\'' then .plain else .strong
  | .strongEscaped => .strong

/-- Scans part of a line. Gives the final state, or what stands before a comment. -/
def scanLine (scan : Scan) (before : List Char) : List Char → Scan ⊕ List Char
  | [] => .inl scan
  | c :: rest =>
    if scan = .blank ∧ c = '#' then .inr before.reverse
    else scanLine (scan.next c) (c :: before) rest

def dropLineEnd (line : List Char) : List Char :=
  match line.reverse with
  | '\n' :: '\r' :: rest => rest.reverse
  | '\n' :: rest => rest.reverse
  | _ => line

/-- Joins written lines, each with its end, into lines to be read. A written line is none if it is no
text. The result ends with none if the last line is no text or is not finished. -/
def joinLines (scan : Scan) (begun : List Char) : List (Option String) → List (Option (List Char))
  | [] => if scan = .plain then [] else [none]
  | none :: _ => [none]
  | some written :: rest =>
    let line := begun ++ written.toList
    if (Text.trimStart line).head? = some '#' then some [] :: joinLines .plain [] rest
    else
      match scanLine scan [] written.toList with
      | .inr before => some (begun ++ before) :: joinLines .plain [] rest
      | .inl .plain => some (dropLineEnd line) :: joinLines .plain [] rest
      | .inl scan => joinLines scan line rest

/-- The line that is read, from behind, with the lines after it. There is no line without a byte. -/
def gatherLines (lines : List UInt8 × List (List UInt8)) : List (List UInt8) :=
  if lines.1 = [] then lines.2 else lines.1 :: lines.2

def splitByte (byte : UInt8) (lines : List UInt8 × List (List UInt8)) :
    List UInt8 × List (List UInt8) :=
  if byte = 0x0A then ([byte], gatherLines lines) else (byte :: lines.1, lines.2)

def writtenLines (bytes : List UInt8) : List (List UInt8) :=
  gatherLines (bytes.foldr splitByte ([], []))

/-! ## Assignments -/

def beginsName (c : Char) : Bool :=
  c.isAlpha || c == '_'

def isInName (c : Char) : Bool :=
  c.isAlphanum || c == '_' || c == '.'

def readName? (line : List Char) : Option (List Char × List Char) :=
  match line with
  | [] => none
  | first :: _ =>
    if beginsName first then some (line.takeWhile isInName, line.dropWhile isInName) else none

def readEquals? : List Char → Option (List Char)
  | '=' :: rest => some rest
  | _ => none

/-- The name in a line that assigns a value, and what follows the equals sign. The word `export`
before a name is passed over, but it is a name itself if an equals sign follows it. -/
def readTarget? (line : List Char) : Option (List Char × List Char) := do
  let (name, rest) ← readName? line
  let rest := Text.trimStart rest
  match readEquals? rest with
  | some value => some (name, value)
  | none =>
    if name = ['e', 'x', 'p', 'o', 'r', 't'] then
      let (name, rest) ← readName? rest
      let value ← readEquals? (Text.trimStart rest)
      some (name, value)
    else
      none

inductive Reference where
  | absent
  /-- After a dollar sign; holds the letters read so far, last first. -/
  | bare (name : List Char)
  /-- After a dollar sign and a brace. -/
  | braced (name : List Char)
  deriving DecidableEq, Repr

inductive Quoting where
  | plain
  | weak
  | strong
  /-- After a blank outside quotes: nothing may follow but a comment. -/
  | ended
  deriving DecidableEq, Repr

structure Reading where
  quoting : Quoting := .plain
  escaped : Bool := false
  reference : Reference := .absent
  /-- The value read so far, last character first. -/
  value : List Char := []

namespace Reading

def push (reading : Reading) (c : Char) : Reading :=
  { reading with value := c :: reading.value }

/-- Puts the value of a variable, or nothing if it has none. -/
def expand (environment : Environment) (reading : Reading) (name : List Char) : Reading :=
  let value := (environment.resolve? (String.ofList name.reverse)).getD ""
  { reading with reference := .absent, value := value.toList.reverse ++ reading.value }

/-- A character inside a reference. A bare name ends before the first character that is neither a
letter nor a number, and that character stands for itself unless it is a dollar sign. -/
def stepReference (environment : Environment) (reading : Reading) (c : Char) : Reading :=
  match reading.reference with
  | .absent => reading
  | .bare name =>
    if Text.isAlphanumeric c then { reading with reference := .bare (c :: name) }
    else if c = '{' ∧ name = [] then { reading with reference := .braced [] }
    else if c = '$' then { reading.expand environment name with reference := .bare [] }
    else (reading.expand environment name).push c
  | .braced name =>
    if Text.isAlphanumeric c then { reading with reference := .braced (c :: name) }
    else if c = '}' then reading.expand environment name
    else { reading with reference := .braced (c :: name) }

def stepEscaped (reading : Reading) (c : Char) : Option Reading :=
  let reading := { reading with escaped := false }
  if c = '\\' ∨ c = '\'' ∨ c = '"' ∨ c = '$' ∨ c = ' ' then some (reading.push c)
  else if c = 'n' then some (reading.push '\n')
  else none

def step (environment : Environment) (reading : Reading) (c : Char) : Option Reading :=
  match reading.quoting with
  | .ended => if c = ' ' ∨ c = '\t' then some reading else none
  | quoting =>
    if reading.escaped then reading.stepEscaped c
    else if quoting = .strong then
      some (if c = '\'' then { reading with quoting := .plain } else reading.push c)
    else if reading.reference ≠ .absent then some (reading.stepReference environment c)
    else if c = '$' then some { reading with reference := .bare [] }
    else if c = '\\' then some { reading with escaped := true }
    else if quoting = .weak then
      some (if c = '"' then { reading with quoting := .plain } else reading.push c)
    else if c = '\'' then some { reading with quoting := .strong }
    else if c = '"' then some { reading with quoting := .weak }
    else if c = ' ' ∨ c = '\t' then some { reading with quoting := .ended }
    else some (reading.push c)

/-- The value at the end of a line. Quotes and braces must be closed. -/
def finish? (environment : Environment) (reading : Reading) : Option String :=
  match reading.quoting, reading.reference with
  | .strong, _ => none
  | .weak, _ => none
  | _, .braced _ => none
  | _, .bare name => some (String.ofList (reading.expand environment name).value.reverse)
  | _, .absent => some (String.ofList reading.value.reverse)

def readValue? (environment : Environment) (reading : Reading) : List Char → Option String
  | [] => reading.finish? environment
  | c :: rest =>
    if reading.quoting = .ended ∧ c = '#' then reading.finish? environment
    else
      match reading.step environment c with
      | none => none
      | some next => next.readValue? environment rest

end Reading

inductive Statement where
  | nothing
  | assignment (name value : String)
  | malformed
  deriving DecidableEq, Repr

def readLine (environment : Environment) (line : List Char) : Statement :=
  let line := Text.trimStart (Text.trimEnd line)
  if line = [] ∨ line.head? = some '#' then .nothing
  else
    match readTarget? line with
    | none => .malformed
    | some (name, value) =>
      let value := Text.trimStart value
      if value = [] ∨ value.head? = some '#' then .assignment (String.ofList name) ""
      else
        match Reading.readValue? environment {} value with
        | none => .malformed
        | some value => .assignment (String.ofList name) value

/-- The assignments of lines before the first malformed one. A line sees what the lines before it
have set. -/
def assignmentsOf (environment : Environment) :
    List (Option (List Char)) → List (String × String)
  | [] => []
  | none :: _ => []
  | some line :: rest =>
    match readLine environment line with
    | .malformed => []
    | .nothing => assignmentsOf environment rest
    | .assignment name value =>
      (name, value) :: assignmentsOf (environment.setDefault name value) rest

def dropMark : List UInt8 → List UInt8
  | 0xEF :: 0xBB :: 0xBF :: rest => rest
  | bytes => bytes

/-- The assignments of a file in order, repeats included. -/
def assignments (environment : Environment) (bytes : List UInt8) : List (String × String) :=
  assignmentsOf environment
    (joinLines .plain [] ((writtenLines (dropMark bytes)).map Text.decodeUtf8?))

end Lexicon.EnvFile
