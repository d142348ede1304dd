/-!
# Paths

A path is kept as the text it was built from, since answers and messages show that text. Two readings
of the text matter: the steps that a walk through directories takes, and the components by which two
spellings of one path are told to be the same.
-/

set_option autoImplicit false

namespace Lexicon.Storage

/-- A path, absolute if it starts with a slash. -/
structure FilePath where
  text : String
  deriving DecidableEq, Repr

namespace FilePath

def isAbsolute (path : FilePath) : Bool :=
  path.text.toList.head? == some '/'

/-- A path below another one. An absolute path stays as it is; otherwise one slash is put between
the two, unless the first is empty or ends with a slash. -/
def join (base below : FilePath) : FilePath :=
  if below.isAbsolute ∨ base.text = "" then below
  else if base.text.toList.getLast? = some '/' then ⟨base.text ++ below.text⟩
  else ⟨base.text ++ "/" ++ below.text⟩

/-- The pieces of the text between slashes, empty ones included. -/
def steps (path : FilePath) : List String :=
  (path.text.toList.splitOn '/').map String.ofList

/-- A component of a path in normal form. -/
inductive Component where
  | root
  | current
  | parent
  | name (text : String)
  deriving DecidableEq, Repr

/-- The component of one step. An empty step and a step to the same place count for nothing. -/
def Component.ofStep? : String → Option Component
  | "" => none
  | "." => none
  | ".." => some .parent
  | text => some (.name text)

/-- The components. A step to the same place is one only at the start of a relative path. -/
def components (path : FilePath) : List Component :=
  let inner := path.steps.filterMap Component.ofStep?
  if path.isAbsolute then .root :: inner
  else if path.steps.head? = some "." then .current :: inner
  else inner

/-- The starts of a list of steps that end with a component, the shortest first, each put after the
steps taken before. -/
def starts (before : List String) : List String → List (List String)
  | [] => []
  | step :: rest =>
    let taken := before ++ [step]
    if (Component.ofStep? step).isSome then taken :: starts taken rest else starts taken rest

/-- The paths above a path, the nearest first, each cut behind a component of it. -/
def above (path : FilePath) : List FilePath :=
  (starts [] path.steps).dropLast.reverse.map fun steps => ⟨String.intercalate "/" steps⟩

def Same (left right : FilePath) : Prop :=
  left.components = right.components

instance (left right : FilePath) : Decidable (Same left right) :=
  inferInstanceAs (Decidable (left.components = right.components))

end FilePath

def longestName : Nat := 255

def longestPath : Nat := 4095

def IsName (text : String) : Prop :=
  text ≠ "" ∧ text ≠ "." ∧ text ≠ ".." ∧ '/' ∉ text.toList ∧ '\x00' ∉ text.toList ∧
    text.utf8ByteSize ≤ longestName

instance (text : String) : Decidable (IsName text) :=
  inferInstanceAs (Decidable (_ ∧ _ ∧ _ ∧ _ ∧ _ ∧ _))

/-- What follows the last dot of a file name. A dot at the very start is part of the name and starts
no extension. -/
def extension? (name : String) : Option String :=
  let reversed := name.toList.reverse
  match reversed.dropWhile (fun c => c != '.') with
  | _ :: _ :: _ => some (String.ofList (reversed.takeWhile fun c => c != '.').reverse)
  | _ => none

end Lexicon.Storage
