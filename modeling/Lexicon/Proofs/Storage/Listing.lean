import Lexicon.Proofs.Storage.Removal

/-!
# Listings

What stands in a directory. The names in it are told apart, and the path of the directory followed by
one of its names leads to that name below the directory and nowhere else. So the files of one directory
stand at different places, however the path of the directory is spelled.
-/

set_option autoImplicit false

namespace Lexicon.Storage

theorem FilePath.steps_join_of_slash {base below : FilePath} {before : List Char}
    (ends : base.text.toList = before ++ ['/']) (relative : below.isAbsolute = false) :
    base.steps = (FilePath.mk (String.ofList before)).steps ++ [""] ∧
      (base.join below).steps = (FilePath.mk (String.ofList before)).steps ++ below.steps := by
  have joined : base.join below = ⟨base.text ++ below.text⟩ := by
    have filled : base.text ≠ "" := by
      intro empty
      rw [empty] at ends
      simp at ends
    rw [join, if_neg (by simp [relative, filled]), if_pos (by simp [ends])]
  rw [joined, steps, steps, steps, steps, String.toList_append, ends, List.append_assoc,
    List.singleton_append, List.splitOn_append_cons_self, List.splitOn_append_cons_self,
    List.map_append, List.map_append, String.toList_ofList]
  exact ⟨rfl, rfl⟩

theorem FilePath.steps_join_of_no_slash {base below : FilePath} (filled : base.text ≠ "")
    (open_end : base.text.toList.getLast? ≠ some '/') (relative : below.isAbsolute = false) :
    (base.join below).steps = base.steps ++ below.steps := by
  have joined : base.join below = ⟨base.text ++ "/" ++ below.text⟩ := by
    rw [join, if_neg (by simp [relative, filled]), if_neg open_end]
  have slash : "/".toList = ['/'] := rfl
  rw [joined, steps, steps, steps, String.toList_append, String.toList_append, slash,
    List.append_assoc, List.singleton_append, List.splitOn_append_cons_self, List.map_append]

theorem FilePath.isAbsolute_join {base below : FilePath} (filled : base.text ≠ "")
    (relative : below.isAbsolute = false) :
    (base.join below).isAbsolute = base.isAbsolute := by
  rw [join, if_neg (by simp [relative, filled])]
  cases cs : base.text.toList with
  | nil => exact absurd (String.toList_eq_nil_iff.1 cs) filled
  | cons first rest => split <;> simp [isAbsolute, cs]

theorem FilePath.utf8ByteSize_le_join (base : FilePath) {below : FilePath}
    (relative : below.isAbsolute = false) :
    base.text.utf8ByteSize + below.text.utf8ByteSize ≤ (base.join below).text.utf8ByteSize := by
  rw [join]
  split
  · next outer =>
    have empty : base.text = "" := by simpa [relative] using outer
    simp [empty]
  · split <;> simp

theorem FilePath.mem_text_join {base below : FilePath} (relative : below.isAbsolute = false)
    {c : Char} (member : c ∈ base.text.toList) : c ∈ (base.join below).text.toList := by
  have filled : base.text ≠ "" := by
    intro empty
    rw [empty] at member
    cases member
  rw [join, if_neg (by simp [relative, filled])]
  split <;> simp [member]

section NoSlash

variable {name : String} (no_slash : '/' ∉ name.toList)

include no_slash

theorem FilePath.isAbsolute_of_no_slash : (FilePath.mk name).isAbsolute = false := by
  rw [isAbsolute]
  cases cs : name.toList with
  | nil => rfl
  | cons first rest =>
    rw [cs] at no_slash
    have other : first ≠ '/' := fun same => no_slash (same ▸ List.mem_cons_self)
    simp [other]

theorem FilePath.steps_of_no_slash : (FilePath.mk name).steps = [name] := by
  rw [steps, List.splitOn_eq_singleton no_slash, List.map_singleton, String.ofList_toList]

/-- The path of a directory and then a name: before the name stand the steps of the directory, apart
from a last one that stays where it is. -/
theorem FilePath.exists_steps_below {base : FilePath} (filled : base.text ≠ "") :
    ∃ before, (base.join ⟨name⟩).steps = before ++ [name] ∧
      (base.steps = before ∨ base.steps = before ++ [""]) := by
  have relative := isAbsolute_of_no_slash no_slash
  have alone := steps_of_no_slash no_slash
  by_cases ends : base.text.toList.getLast? = some '/'
  · obtain ⟨before, ends⟩ := List.getLast?_eq_some_iff.1 ends
    obtain ⟨outer, joined⟩ := steps_join_of_slash ends relative
    exact ⟨_, by rw [joined, alone], .inr outer⟩
  · exact ⟨_, by rw [steps_join_of_no_slash filled ends relative, alone], .inl rfl⟩

theorem FilePath.exists_steps_join (base : FilePath) :
    ∃ before, (base.join ⟨name⟩).steps = before ++ [name] := by
  have alone := steps_of_no_slash no_slash
  by_cases filled : base.text = ""
  · exact ⟨[], by rw [join, if_pos (Or.inr filled), alone, List.nil_append]⟩
  · obtain ⟨before, joined, _⟩ := exists_steps_below no_slash filled
    exact ⟨before, joined⟩

end NoSlash

theorem IsName.isAbsolute_eq_false {name : String} (isName : IsName name) :
    (FilePath.mk name).isAbsolute = false := by
  obtain ⟨_, _, _, no_slash, _⟩ := isName
  exact FilePath.isAbsolute_of_no_slash no_slash

namespace FileStore

@[simp] theorem follow_nil (store : FileStore) (location : Location) :
    store.follow location [] = .ok location :=
  rfl

theorem follow_append_eq_ok_iff {store : FileStore} {start reached : Location}
    {first second : List String} :
    store.follow start (first ++ second) = .ok reached ↔
      ∃ middle, store.follow start first = .ok middle ∧
        store.follow middle second = .ok reached := by
  induction first generalizing start with
  | nil => simp
  | cons step rest ih =>
    simp only [List.cons_append, follow_cons_eq_ok_iff, ih]
    constructor
    · intro ⟨directory, next, entered, middle, before, after⟩
      exact ⟨middle, ⟨directory, next, entered, before⟩, after⟩
    · intro ⟨middle, ⟨directory, next, entered, before⟩, after⟩
      exact ⟨directory, next, entered, middle, before, after⟩

/-- A slash at the end of a path is a last step that stays in the directory it is in. -/
theorem follow_of_trailing {store : FileStore} {start directory : Location}
    {steps before : List String} (trailing : steps = before ∨ steps = before ++ [""])
    (stands : store.nodeAt? directory = some .directory) :
    store.follow start steps = .ok directory ↔ store.follow start before = .ok directory := by
  rcases trailing with rfl | rfl
  · exact Iff.rfl
  · rw [follow_append_eq_ok_iff]
    constructor
    · intro ⟨middle, reached, stays⟩
      obtain ⟨_, next, entered, arrived⟩ := follow_cons_eq_ok_iff.1 stays
      cases entered
      cases arrived
      exact reached
    · intro reached
      exact ⟨directory, reached, follow_cons_eq_ok_iff.2 ⟨stands, directory, rfl, rfl⟩⟩

theorem stepsOf_eq_ok_iff {path : FilePath} {steps : List String} :
    stepsOf path = .ok steps ↔
      '\x00' ∉ path.text.toList ∧ path.text ≠ "" ∧ path.text.utf8ByteSize ≤ longestPath ∧
        steps = path.steps := by
  rw [stepsOf]
  by_cases invalid : '\x00' ∈ path.text.toList
  · simp [invalid]
  · rw [if_neg invalid]
    by_cases empty : path.text = ""
    · simp [empty]
    · rw [if_neg empty]
      by_cases long : longestPath < path.text.utf8ByteSize
      · simp [long, Nat.not_le.2 long]
      · simp [long, invalid, empty, Nat.not_lt.1 long, eq_comm]

theorem enter_of_isName {name : String} (isName : IsName name) (location : Location) :
    enter location name = .ok (location ++ [name]) := by
  obtain ⟨filled, no_dot, no_dots, _, _, short⟩ := isName
  rw [enter, if_neg (by simp [filled, no_dot]), if_neg no_dots, if_neg (Nat.not_lt.2 short)]

theorem eq_concat_of_enter {location next : Location} {name : String}
    (proper : name ≠ "" ∧ name ≠ "." ∧ name ≠ "..")
    (entered : enter location name = .ok next) : next = location ++ [name] := by
  obtain ⟨filled, no_dot, no_dots⟩ := proper
  rw [enter, if_neg (by simp [filled, no_dot]), if_neg no_dots] at entered
  split at entered
  · cases entered
  · cases entered
    rfl

theorem follow_join_name {store : FileStore} {directory : FilePath} {root location : Location}
    {name : String} (isName : IsName name)
    (opened : store.find directory = .ok (root, .directory)) :
    store.follow (store.start (directory.join ⟨name⟩)) (directory.join ⟨name⟩).steps =
      .ok location ↔ location = root ++ [name] := by
  have relative := isName.isAbsolute_eq_false
  obtain ⟨steps, cut, reached, stands⟩ := find_eq_ok_iff.1 opened
  obtain ⟨_, filled, _, rfl⟩ := stepsOf_eq_ok_iff.1 cut
  have sameStart : store.start (directory.join ⟨name⟩) = store.start directory := by
    rw [start, start, FilePath.isAbsolute_join filled relative]
  obtain ⟨before, joined, above⟩ := FilePath.exists_steps_below isName.2.2.2.1 filled
  rw [follow_of_trailing above stands] at reached
  rw [sameStart, joined, follow_append_eq_ok_iff]
  simp only [reached, follow_cons_eq_ok_iff, enter_of_isName isName, follow_nil]
  constructor
  · intro ⟨middle, same, _, next, entered, arrived⟩
    cases same
    cases entered
    cases arrived
    rfl
  · intro same
    subst same
    exact ⟨root, rfl, stands, _, rfl, rfl⟩

theorem find_join_name {store : FileStore} {directory : FilePath} {root location : Location}
    {name : String} {node : Node} (isName : IsName name)
    (opened : store.find directory = .ok (root, .directory))
    (found : store.find (directory.join ⟨name⟩) = .ok (location, node)) :
    location = root ++ [name] := by
  obtain ⟨steps, cut, followed, _⟩ := find_eq_ok_iff.1 found
  obtain ⟨_, _, _, rfl⟩ := stepsOf_eq_ok_iff.1 cut
  exact (follow_join_name isName opened).1 followed

/-- What stands below a directory is found by its name, unless the path gets too long. -/
theorem find_join_name_iff {store : FileStore} {directory : FilePath} {root : Location}
    {name : String} {node : Node} (isName : IsName name)
    (opened : store.find directory = .ok (root, .directory))
    (short : (directory.join ⟨name⟩).text.utf8ByteSize ≤ longestPath) :
    store.find (directory.join ⟨name⟩) = .ok (root ++ [name], node) ↔
      store.nodeAt? (root ++ [name]) = some node := by
  constructor
  · intro found
    obtain ⟨_, _, _, held⟩ := find_eq_ok_iff.1 found
    exact held
  · intro held
    obtain ⟨_, cut, _, _⟩ := find_eq_ok_iff.1 opened
    obtain ⟨valid, filled, _, _⟩ := stepsOf_eq_ok_iff.1 cut
    have relative := isName.isAbsolute_eq_false
    have no_nul := isName.2.2.2.2.1
    have joined : '\x00' ∉ (directory.join ⟨name⟩).text.toList ∧
        (directory.join ⟨name⟩).text ≠ "" := by
      rw [FilePath.join, if_neg (by simp [relative, filled])]
      split
      · exact ⟨by simp [valid, no_nul], by simp [filled]⟩
      · exact ⟨by simp [valid, no_nul], by simp⟩
    have whole : stepsOf (directory.join ⟨name⟩) = .ok (directory.join ⟨name⟩).steps :=
      stepsOf_eq_ok_iff.2 ⟨joined.1, joined.2, short, rfl⟩
    exact find_eq_ok_iff.2 ⟨_, whole, (follow_join_name isName opened).2 rfl, held⟩

/-! ## Where a path leads -/

/-- Without links, a path leads to the same place in every store in which it leads anywhere. -/
theorem follow_unique {left right : FileStore} {steps : List String}
    {start location location' : Location} (followed : left.follow start steps = .ok location)
    (followed' : right.follow start steps = .ok location') : location = location' := by
  induction steps generalizing start with
  | nil =>
    cases followed
    cases followed'
    rfl
  | cons step rest ih =>
    obtain ⟨_, next, entered, followed⟩ := follow_cons_eq_ok_iff.1 followed
    obtain ⟨_, next', entered', followed'⟩ := follow_cons_eq_ok_iff.1 followed'
    rw [entered] at entered'
    cases entered'
    exact ih followed followed'

theorem find_unique {left right : FileStore}
    (sameStart : left.workingDirectory = right.workingDirectory) {path : FilePath}
    {location location' : Location} {node node' : Node}
    (found : left.find path = .ok (location, node))
    (found' : right.find path = .ok (location', node')) : location = location' := by
  obtain ⟨steps, cut, followed, _⟩ := find_eq_ok_iff.1 found
  obtain ⟨steps', cut', followed', _⟩ := find_eq_ok_iff.1 found'
  rw [cut] at cut'
  cases cut'
  rw [start, sameStart] at followed
  exact follow_unique followed followed'

/-- What a path ending in a name leads to has that name. -/
theorem exists_concat_of_find {store : FileStore} {base : FilePath} {name : String}
    {location : Location} {node : Node} (no_slash : '/' ∉ name.toList) (filled : name ≠ "")
    (no_dot : name ≠ ".") (no_dots : name ≠ "..")
    (found : store.find (base.join ⟨name⟩) = .ok (location, node)) :
    ∃ outer, location = outer ++ [name] := by
  obtain ⟨steps, cut, followed, _⟩ := find_eq_ok_iff.1 found
  obtain ⟨_, _, _, rfl⟩ := stepsOf_eq_ok_iff.1 cut
  obtain ⟨before, joined⟩ := FilePath.exists_steps_join no_slash base
  rw [joined, follow_append_eq_ok_iff] at followed
  obtain ⟨outer, _, last⟩ := followed
  obtain ⟨_, next, entered, arrived⟩ := follow_cons_eq_ok_iff.1 last
  cases arrived
  exact ⟨outer, eq_concat_of_enter ⟨filled, no_dot, no_dots⟩ entered⟩

/-! ## The names in a directory -/

private theorem lastBelow_eq_some_iff {directory location : Location} {name : String} :
    (if location.dropLast = directory then location.getLast? else none) = some name ↔
      location = directory ++ [name] := by
  constructor
  · intro listed
    split at listed
    · next inside =>
      obtain ⟨before, rfl⟩ := List.getLast?_eq_some_iff.1 listed
      rw [List.dropLast_concat] at inside
      rw [inside]
    · cases listed
  · intro same
    rw [same, List.dropLast_concat, if_pos rfl, List.getLast?_concat]

theorem isName_of_mem_namesIn {store : FileStore} {directory : Location} {name : String}
    (listed : name ∈ store.namesIn directory) : IsName name := by
  obtain ⟨⟨location, node⟩, member, last⟩ := List.mem_filterMap.1 listed
  have inside : location ∈ store.nodes.map Prod.fst := List.mem_map.2 ⟨_, member, rfl⟩
  have same : location = directory ++ [name] := lastBelow_eq_some_iff.1 last
  exact store.named location inside name (by simp [same])

theorem mem_namesIn {store : FileStore} {directory : Location} {name : String} :
    name ∈ store.namesIn directory ↔ ∃ node, store.nodeAt? (directory ++ [name]) = some node := by
  have below : directory ++ [name] ≠ [] := by simp
  rw [namesIn, List.mem_filterMap]
  simp only [nodeAt?_eq_some_iff_mem below]
  constructor
  · rintro ⟨⟨location, node⟩, member, last⟩
    have here : location = directory ++ [name] := lastBelow_eq_some_iff.1 last
    subst here
    exact ⟨node, member⟩
  · rintro ⟨node, member⟩
    exact ⟨_, member, lastBelow_eq_some_iff.2 rfl⟩

/-- Something stands under a name right in a directory. -/
def Holds (store : FileStore) (directory : FilePath) (name : String) (node : Node) : Prop :=
  ∃ root, store.find directory = .ok (root, .directory) ∧
    store.nodeAt? (root ++ [name]) = some node

/-- What the path of a directory and then a name leads to stands under that name in the directory. -/
theorem holds_of_find_join {store : FileStore} {directory : FilePath} {name : String}
    {location : Location} {node : Node} (no_slash : '/' ∉ name.toList)
    (proper : name ≠ "" ∧ name ≠ "." ∧ name ≠ "..") (filled : directory.text ≠ "")
    (found : store.find (directory.join ⟨name⟩) = .ok (location, node)) :
    store.Holds directory name node := by
  have relative := FilePath.isAbsolute_of_no_slash no_slash
  obtain ⟨steps, cut, followed, held⟩ := find_eq_ok_iff.1 found
  obtain ⟨valid, _, short, rfl⟩ := stepsOf_eq_ok_iff.1 cut
  obtain ⟨before, joined, above⟩ := FilePath.exists_steps_below no_slash filled
  rw [start, FilePath.isAbsolute_join filled relative, ← start, joined, follow_append_eq_ok_iff]
    at followed
  obtain ⟨root, reached, last⟩ := followed
  obtain ⟨stands, next, entered, arrived⟩ := follow_cons_eq_ok_iff.1 last
  cases arrived
  cases eq_concat_of_enter proper entered
  -- The path of the directory is a part of the whole path, so storage does not refuse it either.
  have size := directory.utf8ByteSize_le_join relative
  have whole : stepsOf directory = .ok directory.steps := by
    refine stepsOf_eq_ok_iff.2 ⟨?_, filled, by omega, rfl⟩
    intro nul
    exact valid (FilePath.mem_text_join relative nul)
  have opened : store.find directory = .ok (root, .directory) :=
    find_eq_ok_iff.2 ⟨_, whole, (follow_of_trailing above stands).2 reached, stands⟩
  exact ⟨root, opened, held⟩

theorem Holds.isName {store : FileStore} {directory : FilePath} {name : String} {node : Node}
    (holds : store.Holds directory name node) : IsName name := by
  obtain ⟨_, _, held⟩ := holds
  exact isName_of_mem_namesIn (mem_namesIn.2 ⟨node, held⟩)

theorem AreFiles.holds_iff {store : FileStore} {locations : List Location}
    (files : store.AreFiles locations) {directory : FilePath} {name : String} {node : Node} :
    (store.withoutAll locations).Holds directory name node ↔
      ∃ root, store.find directory = .ok (root, .directory) ∧
        store.nodeAt? (root ++ [name]) = some node ∧ root ++ [name] ∉ locations := by
  simp only [Holds, files.find_directory_iff, files.nodeAt?_eq_some_iff]

theorem nodup_namesIn (store : FileStore) (directory : Location) :
    (store.namesIn directory).Nodup := by
  have distinct : store.nodes.Pairwise fun first second => first.1 ≠ second.1 :=
    List.pairwise_map.1 store.distinct
  refine distinct.filterMap _ ?_
  intro first second apart name listed other listed' same
  have ends : first.1 = directory ++ [name] := lastBelow_eq_some_iff.1 listed
  have ends' : second.1 = directory ++ [other] := lastBelow_eq_some_iff.1 listed'
  exact apart (by rw [ends, ends', same])

theorem list_eq_ok_iff {store : FileStore} {path : FilePath} {names : List String} :
    store.list path = .ok names ↔
      ∃ root, store.find path = .ok (root, .directory) ∧ names = store.namesIn root := by
  rw [list]
  constructor
  · intro listed
    split at listed
    · cases listed
    · cases listed
    · next root found =>
      cases listed
      exact ⟨root, found, rfl⟩
  · intro ⟨root, found, same⟩
    simp only [found, same]

/-! ## The order of the nodes -/

section Reordered

variable {left right : FileStore} (nodes : left.nodes.Perm right.nodes)
  (sameStart : left.workingDirectory = right.workingDirectory)

include nodes

theorem nodeAt?_of_perm (location : Location) : left.nodeAt? location = right.nodeAt? location := by
  rw [nodeAt?, nodeAt?, Entries.lookup_of_perm nodes left.distinct]

theorem follow_of_perm (start : Location) (steps : List String) :
    left.follow start steps = right.follow start steps := by
  induction steps generalizing start with
  | nil => rfl
  | cons step rest ih => simp only [follow, nodeAt?_of_perm nodes, ih]

include sameStart

/-- Paths lead to the same places in whatever order a store holds its nodes. -/
theorem find_of_perm (path : FilePath) : left.find path = right.find path := by
  simp only [find, start, sameStart, follow_of_perm nodes, nodeAt?_of_perm nodes]

theorem holds_of_perm {directory : FilePath} {name : String} {node : Node} :
    left.Holds directory name node ↔ right.Holds directory name node := by
  simp only [Holds, find_of_perm nodes sameStart, nodeAt?_of_perm nodes]

end Reordered

/-! ## Files in a directory -/

def LiesIn (store : FileStore) (path directory : FilePath) : Prop :=
  ∃ root name content, store.find directory = .ok (root, .directory) ∧
    store.find path = .ok (root ++ [name], .file content)

/-- Places right in a directory, with a file at each of them. -/
def FilesIn (store : FileStore) (directory : FilePath) (locations : List Location) : Prop :=
  ∀ location ∈ locations, ∃ root name content, store.find directory = .ok (root, .directory) ∧
    location = root ++ [name] ∧ store.nodeAt? location = some (.file content)

section FilesIn

variable {store : FileStore} {directory : FilePath} {locations : List Location}
  (files : store.FilesIn directory locations)

include files

theorem FilesIn.areFiles : store.AreFiles locations := by
  intro location member
  obtain ⟨_, _, content, _, _, held⟩ := files location member
  exact ⟨content, held⟩

theorem FilesIn.file?_withoutAll {path : FilePath} (outside : ¬ store.LiesIn path directory) :
    (store.withoutAll locations).file? path = store.file? path := by
  apply Option.ext
  intro content
  simp only [file?_eq_some_iff, files.areFiles.find_eq_ok_iff]
  constructor
  · intro ⟨location, found, _⟩
    exact ⟨location, found⟩
  · intro ⟨location, found⟩
    refine ⟨location, found, ?_⟩
    intro removed
    obtain ⟨root, name, _, opened, rfl, _⟩ := files location removed
    exact outside ⟨root, name, content, opened, found⟩

end FilesIn

theorem file?_withoutAll_congr {left right : FileStore} {path : FilePath} {gone : List Location}
    (sameStart : left.workingDirectory = right.workingDirectory)
    (files : left.AreFiles gone) (files' : right.AreFiles gone)
    (same : left.file? path = right.file? path) :
    (left.withoutAll gone).file? path = (right.withoutAll gone).file? path := by
  have shown : ∀ content, (∃ location, left.find path = .ok (location, .file content)) ↔
      ∃ location, right.find path = .ok (location, .file content) := by
    intro content
    rw [← file?_eq_some_iff, ← file?_eq_some_iff, same]
  apply Option.ext
  intro content
  simp only [file?_eq_some_iff, files.find_eq_ok_iff, files'.find_eq_ok_iff]
  constructor
  · intro ⟨location, found, kept⟩
    obtain ⟨location', found'⟩ := (shown content).1 ⟨location, found⟩
    cases find_unique sameStart found found'
    exact ⟨location, found', kept⟩
  · intro ⟨location', found', kept⟩
    obtain ⟨location, found⟩ := (shown content).2 ⟨location', found'⟩
    cases find_unique sameStart found found'
    exact ⟨location', found, kept⟩

end FileStore

end Lexicon.Storage
