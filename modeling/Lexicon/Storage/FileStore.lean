import Lexicon.Storage.FilePath

/-!
# File stores

Directories and files without links, seen from a working directory. A store is a finite map from
locations to nodes; the root directory is always there.

A path is followed step by step. Every step but the last must lead from a directory, so a path that
runs through a file fails otherwise than one that runs through nothing. A trailing slash is a last
step that stays where it is, and so demands a directory too.

What is made or removed is the last step of a path, after the directory that the steps before it
reach. A last step that names nothing new, such as a single dot, makes nothing and removes nothing.
-/

set_option autoImplicit false

namespace Lexicon.Storage

inductive IoError where
  | notFound
  | isADirectory
  | notADirectory
  | alreadyExists
  | nameTooLong
  /-- A path holds a character that no name can hold. -/
  | invalidPath
  deriving DecidableEq, Repr

/-- The bytes of a file. Their number fits in 64 bits. -/
structure Content where
  bytes : List UInt8
  bounded : bytes.length < UInt64.size

namespace Content

theorem ext {left right : Content} (same : left.bytes = right.bytes) : left = right := by
  cases left
  cases right
  cases same
  rfl

instance : DecidableEq Content := fun left right =>
  if same : left.bytes = right.bytes then isTrue (ext same)
  else isFalse fun equal => same (congrArg bytes equal)

def ofBytes? (bytes : List UInt8) : Option Content :=
  if bounded : bytes.length < UInt64.size then some ⟨bytes, bounded⟩ else none

def size (content : Content) : UInt64 :=
  UInt64.ofNat content.bytes.length

@[simp] theorem toNat_size (content : Content) : content.size.toNat = content.bytes.length := by
  rw [size, UInt64.toNat_ofNat']
  exact Nat.mod_eq_of_lt content.bounded

end Content

inductive Node where
  | directory
  | file (content : Content)
  deriving DecidableEq

/-- The size a directory reports; it says nothing about what the directory holds. -/
def directorySize : UInt64 := 4096

def Node.size : Node → UInt64
  | .directory => directorySize
  | .file content => content.size

/-- The names that lead from the root to a place. -/
abbrev Location := List String

/-- A tree of directories and files, with the directory at which relative paths start. -/
structure FileStore where
  nodes : List (Location × Node)
  workingDirectory : Location
  distinct : (nodes.map Prod.fst).Nodup
  named : ∀ location ∈ nodes.map Prod.fst, ∀ name ∈ location, IsName name

namespace FileStore

def empty : FileStore :=
  ⟨[], [], .nil, by simp⟩

/-! ## Looking -/

def nodeAt? (store : FileStore) (location : Location) : Option Node :=
  if location = [] then some .directory else store.nodes.lookup location

/-- Where one step leads from a directory. Nothing lies above the root. -/
def enter (location : Location) (step : String) : Except IoError Location :=
  if step = "" ∨ step = "." then .ok location
  else if step = ".." then .ok location.dropLast
  else if longestName < step.utf8ByteSize then .error .nameTooLong
  else .ok (location ++ [step])

/-- Follows steps from a location. Whether something stands at the place they lead to is left open. -/
def follow (store : FileStore) (location : Location) : List String → Except IoError Location
  | [] => .ok location
  | step :: rest =>
    match store.nodeAt? location with
    | none => .error .notFound
    | some (.file _) => .error .notADirectory
    | some .directory =>
      match enter location step with
      | .error cause => .error cause
      | .ok next => store.follow next rest

def start (store : FileStore) (path : FilePath) : Location :=
  if path.isAbsolute then [] else store.workingDirectory

/-- The steps of a path that storage looks at. Others are refused before any step is taken. -/
def stepsOf (path : FilePath) : Except IoError (List String) :=
  if '\x00' ∈ path.text.toList then .error .invalidPath
  else if path.text = "" then .error .notFound
  else if longestPath < path.text.utf8ByteSize then .error .nameTooLong
  else .ok path.steps

def find (store : FileStore) (path : FilePath) : Except IoError (Location × Node) :=
  match stepsOf path with
  | .error cause => .error cause
  | .ok steps =>
    match store.follow (store.start path) steps with
    | .error cause => .error cause
    | .ok location =>
      match store.nodeAt? location with
      | none => .error .notFound
      | some node => .ok (location, node)

def isDirectory (store : FileStore) (path : FilePath) : Bool :=
  match store.find path with
  | .ok (_, .directory) => true
  | _ => false

/-- The directory from which the last step of a path leads, and that step. Slashes at the end are no
step of their own here, and the last step to the root stays where it is. -/
def lastStep (store : FileStore) (path : FilePath) : Except IoError (Location × String) :=
  match stepsOf path with
  | .error cause => .error cause
  | .ok steps =>
    match steps.reverse.dropWhile fun step => step == "" with
    | [] => .ok ([], ".")
    | last :: before =>
      match store.follow (store.start path) (before.reverse ++ [""]) with
      | .error cause => .error cause
      | .ok directory => .ok (directory, last)

/-- Where a new node would stand that a path names, with what stands there already. There is no such
place if the last step is no name. -/
def target (store : FileStore) (path : FilePath) :
    Except IoError (Option (Location × Option Node)) :=
  match store.lastStep path with
  | .error cause => .error cause
  | .ok (directory, step) =>
    if step = "." ∨ step = ".." then .ok none
    else
      match enter directory step with
      | .error cause => .error cause
      | .ok location => .ok (some (location, store.nodeAt? location))

def file? (store : FileStore) (path : FilePath) : Option Content :=
  match store.find path with
  | .ok (_, .file content) => some content
  | _ => none

/-- The names of what stands directly in a directory, in no particular order. -/
def namesIn (store : FileStore) (directory : Location) : List String :=
  store.nodes.filterMap fun (location, _) =>
    if location.dropLast = directory then location.getLast? else none

def list (store : FileStore) (path : FilePath) : Except IoError (List String) :=
  match store.find path with
  | .error cause => .error cause
  | .ok (_, .file _) => .error .notADirectory
  | .ok (location, .directory) => .ok (store.namesIn location)

/-- Everything below a location, each place given by the names that lead there from it. -/
def below (store : FileStore) (root : Location) : List (Location × Node) :=
  store.nodes.filterMap fun (location, node) =>
    if root.isPrefixOf location ∧ location ≠ root then some (location.drop root.length, node)
    else none

/-! ## Changing -/

def keepOnly (store : FileStore) (keeps : Location → Bool) : FileStore where
  nodes := store.nodes.filter fun (location, _) => keeps location
  workingDirectory := store.workingDirectory
  distinct := (List.filter_sublist.map Prod.fst).nodup store.distinct
  named := fun location member =>
    store.named location ((List.filter_sublist.map Prod.fst).subset member)

def without (store : FileStore) (location : Location) : FileStore :=
  store.keepOnly fun other => other != location

/-- Removes the file that a path names. A directory is not removed this way. -/
def removeFile (store : FileStore) (path : FilePath) : Except IoError FileStore :=
  match store.find path with
  | .error cause => .error cause
  | .ok (_, .directory) => .error .isADirectory
  | .ok (location, .file _) => .ok (store.without location)

/-- Removes what a path names, with everything below it. A directory is emptied first, and stays if
the path does not name it any more, or not by a name. -/
def remove (store : FileStore) (path : FilePath) : FileStore :=
  match store.find path with
  | .error _ => store
  | .ok (location, .file _) => store.without location
  | .ok (root, .directory) =>
    let emptied := store.keepOnly fun location => !root.isPrefixOf location || location == root
    match emptied.target path with
    | .ok (some (location, _)) => emptied.without location
    | _ => emptied

/-- Puts a node at a location, in place of what stood there. Nothing is put where a step of the
location is no name. -/
def place (store : FileStore) (location : Location) (node : Node) : FileStore :=
  if valid : ∀ name ∈ location, IsName name then
    let rest := store.without location
    { nodes := rest.nodes ++ [(location, node)]
      workingDirectory := store.workingDirectory
      distinct := by
        rw [List.map_append, List.nodup_append]
        refine ⟨rest.distinct, by simp, ?_⟩
        intro other member last held same
        have otherwise : other ≠ location := by
          simp only [List.mem_map] at member
          obtain ⟨entry, kept, rfl⟩ := member
          simpa [rest, without, keepOnly] using (List.mem_filter.1 kept).2
        simp only [List.map_cons, List.map_nil, List.mem_singleton] at held
        exact otherwise (same.trans held)
      named := by
        intro other member
        rw [List.map_append, List.mem_append] at member
        rcases member with inner | last
        · exact rest.named other inner
        · simp only [List.map_cons, List.map_nil, List.mem_singleton] at last
          exact last ▸ valid }
  else
    store

def makeOne (store : FileStore) (path : FilePath) : Except IoError FileStore :=
  match store.target path with
  | .error cause => .error cause
  | .ok (some (location, none)) => .ok (store.place location .directory)
  | .ok _ => .error .alreadyExists

/-- Makes the directory that a path names, and before it those of the paths above it that are
missing. Says whether the directory is there in the end. What was made stays even if it is not. -/
def makeFrom (store : FileStore) (path : FilePath) (above : List FilePath) : FileStore × Bool :=
  match store.makeOne path, above with
  | .ok made, _ => (made, true)
  | .error .notFound, next :: above =>
    match store.makeFrom next above with
    | (made, false) => (made, false)
    | (made, true) =>
      match made.makeOne path with
      | .ok complete => (complete, true)
      | .error _ => (made, made.isDirectory path)
  | .error _, _ => (store, store.isDirectory path)

def makeDirectory (store : FileStore) (path : FilePath) : FileStore :=
  (store.makeFrom path path.above).1

def makeAbove (store : FileStore) (path : FilePath) : FileStore :=
  match path.above with
  | [] => store
  | next :: above => (store.makeFrom next above).1

def moveTo (store : FileStore) (path : FilePath) : FileStore :=
  let made := store.makeDirectory path
  match made.find path with
  | .ok (location, .directory) => { made with workingDirectory := location }
  | _ => made

/-- Writes a file in a directory that is there. No file is written where a directory stands or where
the path does not end with a name. -/
def writeFile (store : FileStore) (path : FilePath) (content : Content) :
    Except IoError FileStore :=
  match store.target path with
  | .error cause => .error cause
  | .ok none => .error .isADirectory
  | .ok (some (_, some .directory)) => .error .isADirectory
  | .ok (some (location, _)) =>
    if path.steps.getLast? = some "" then .error .isADirectory
    else .ok (store.place location (.file content))

def write (store : FileStore) (path : FilePath) (content : Content) : FileStore :=
  let made := store.makeAbove path
  match made.writeFile path content with
  | .ok written => written
  | .error _ => made

end FileStore

end Lexicon.Storage
