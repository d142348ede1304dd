import Lexicon.Storage.Quarantine
import Lexicon.Proofs.Entries
import Lexicon.Proofs.Storage.Extent

/-!
# Removing files

Removing files takes them away and leaves every other place as it was: a path that led somewhere else
leads there still, since no path leads through a file. So the files that a sequence of quarantines
removes are those that its extents name at the beginning, in whatever order they are named.
-/

set_option autoImplicit false

namespace Lexicon.Storage

namespace FileStore

theorem ext_nodes {left right : FileStore} (nodes : left.nodes = right.nodes)
    (directory : left.workingDirectory = right.workingDirectory) : left = right := by
  cases left
  cases right
  cases nodes
  cases directory
  rfl

/-- What stands below the root is what the store lists. -/
theorem nodeAt?_eq_some_iff_mem {store : FileStore} {location : Location} {node : Node}
    (below : location ≠ []) :
    store.nodeAt? location = some node ↔ (location, node) ∈ store.nodes := by
  rw [nodeAt?, if_neg below, Entries.lookup_eq_some_iff_mem store.distinct]

def withoutAll (store : FileStore) (locations : List Location) : FileStore :=
  store.keepOnly fun location => decide (location ∉ locations)

@[simp] theorem withoutAll_nil (store : FileStore) : store.withoutAll [] = store := by
  refine ext_nodes ?_ rfl
  change store.nodes.filter (fun entry => decide (entry.1 ∉ ([] : List Location))) = store.nodes
  rw [List.filter_eq_self]
  intro entry _
  simp

theorem without_eq_withoutAll (store : FileStore) (location : Location) :
    store.without location = store.withoutAll [location] := by
  refine ext_nodes ?_ rfl
  change store.nodes.filter (fun entry => entry.1 != location) =
    store.nodes.filter (fun entry => decide (entry.1 ∉ [location]))
  apply List.filter_congr
  intro entry _
  rw [Bool.eq_iff_iff, decide_eq_true_eq, List.mem_singleton, bne_iff_ne]

/-- Only which locations are emptied matters, not how often or in which order they are listed. -/
theorem withoutAll_congr (store : FileStore) {left right : List Location}
    (same : ∀ location, location ∈ left ↔ location ∈ right) :
    store.withoutAll left = store.withoutAll right := by
  rw [withoutAll, withoutAll]
  congr 1
  funext location
  rw [decide_eq_decide, same]

theorem withoutAll_withoutAll (store : FileStore) (first second : List Location) :
    (store.withoutAll first).withoutAll second = store.withoutAll (first ++ second) := by
  refine ext_nodes ?_ rfl
  change (store.nodes.filter fun entry => decide (entry.1 ∉ first)).filter
      (fun entry => decide (entry.1 ∉ second)) =
    store.nodes.filter fun entry => decide (entry.1 ∉ first ++ second)
  rw [List.filter_filter]
  apply List.filter_congr
  intro entry _
  rw [Bool.eq_iff_iff, Bool.and_eq_true, decide_eq_true_eq, decide_eq_true_eq, decide_eq_true_eq,
    List.mem_append, not_or, and_comm]

theorem withoutAll_comm (store : FileStore) (first second : List Location) :
    (store.withoutAll first).withoutAll second = (store.withoutAll second).withoutAll first := by
  rw [withoutAll_withoutAll, withoutAll_withoutAll]
  apply store.withoutAll_congr
  intro location
  rw [List.mem_append, List.mem_append, or_comm]

theorem nodeAt?_withoutAll (store : FileStore) {locations : List Location} {location : Location}
    (kept : location ∉ locations) :
    (store.withoutAll locations).nodeAt? location = store.nodeAt? location := by
  rw [nodeAt?, nodeAt?]
  split
  · rfl
  · change (store.nodes.filter fun entry => decide (entry.1 ∉ locations)).lookup location = _
    rw [Entries.lookup_filter_keys store.nodes (fun place => decide (place ∉ locations)),
      if_pos (decide_eq_true kept)]

theorem nodeAt?_withoutAll_of_mem (store : FileStore) {locations : List Location}
    {location : Location} (removed : location ∈ locations) (below : location ≠ []) :
    (store.withoutAll locations).nodeAt? location = none := by
  rw [nodeAt?, if_neg below]
  change (store.nodes.filter fun entry => decide (entry.1 ∉ locations)).lookup location = _
  rw [Entries.lookup_filter_keys store.nodes (fun place => decide (place ∉ locations)),
    if_neg (by simpa using removed)]

/-! ## Paths after a removal -/

theorem follow_cons_eq_ok_iff {store : FileStore} {start reached : Location} {step : String}
    {rest : List String} :
    store.follow start (step :: rest) = .ok reached ↔
      store.nodeAt? start = some .directory ∧
        ∃ next, enter start step = .ok next ∧ store.follow next rest = .ok reached := by
  rw [follow]
  cases held : store.nodeAt? start with
  | none => simp
  | some node =>
    cases node with
    | file content => simp
    | directory =>
      cases entered : enter start step with
      | error cause => simp
      | ok next => simp

theorem find_eq_ok_iff {store : FileStore} {path : FilePath} {location : Location} {node : Node} :
    store.find path = .ok (location, node) ↔
      ∃ steps, stepsOf path = .ok steps ∧ store.follow (store.start path) steps = .ok location ∧
        store.nodeAt? location = some node := by
  rw [find]
  cases stepsOf path with
  | error cause => simp
  | ok steps =>
    cases followed : store.follow (store.start path) steps with
    | error cause => simp [followed]
    | ok reached =>
      constructor
      · intro found
        cases held : store.nodeAt? reached with
        | none =>
          simp only [followed, held] at found
          cases found
        | some there =>
          simp only [followed, held] at found
          cases found
          exact ⟨steps, rfl, followed, held⟩
      · intro ⟨_, same, reaches, held⟩
        cases same
        rw [followed] at reaches
        cases reaches
        simp only [followed, held]

def AreFiles (store : FileStore) (locations : List Location) : Prop :=
  ∀ location ∈ locations, ∃ content, store.nodeAt? location = some (.file content)

theorem AreFiles.ne_nil {store : FileStore} {locations : List Location}
    (files : store.AreFiles locations) {location : Location} (member : location ∈ locations) :
    location ≠ [] := by
  intro root
  obtain ⟨content, held⟩ := files location member
  rw [root, nodeAt?, if_pos rfl] at held
  cases held

section Removal

variable {store : FileStore} {locations : List Location} (files : store.AreFiles locations)

include files

theorem AreFiles.nodeAt?_eq_some_iff {location : Location} {node : Node} :
    (store.withoutAll locations).nodeAt? location = some node ↔
      store.nodeAt? location = some node ∧ location ∉ locations := by
  by_cases removed : location ∈ locations
  · rw [store.nodeAt?_withoutAll_of_mem removed (files.ne_nil removed)]
    constructor
    · intro held
      cases held
    · intro ⟨_, kept⟩
      exact (kept removed).elim
  · rw [store.nodeAt?_withoutAll removed]
    exact ⟨fun held => ⟨held, removed⟩, fun both => both.1⟩

theorem AreFiles.nodeAt?_directory_iff {location : Location} :
    (store.withoutAll locations).nodeAt? location = some .directory ↔
      store.nodeAt? location = some .directory := by
  rw [files.nodeAt?_eq_some_iff]
  constructor
  · exact fun both => both.1
  · intro directory
    refine ⟨directory, ?_⟩
    intro removed
    obtain ⟨content, file⟩ := files location removed
    rw [directory] at file
    cases file

theorem AreFiles.follow_eq_ok_iff {steps : List String} {start reached : Location} :
    (store.withoutAll locations).follow start steps = .ok reached ↔
      store.follow start steps = .ok reached := by
  induction steps generalizing start with
  | nil => rfl
  | cons step rest ih =>
    rw [follow_cons_eq_ok_iff, follow_cons_eq_ok_iff, files.nodeAt?_directory_iff]
    simp only [ih]

/-- A path leads where it led before, unless what it led to is gone. -/
theorem AreFiles.find_eq_ok_iff {path : FilePath} {location : Location} {node : Node} :
    (store.withoutAll locations).find path = .ok (location, node) ↔
      store.find path = .ok (location, node) ∧ location ∉ locations := by
  have sameStart : (store.withoutAll locations).start path = store.start path := rfl
  rw [FileStore.find_eq_ok_iff, FileStore.find_eq_ok_iff, sameStart]
  simp only [files.follow_eq_ok_iff, files.nodeAt?_eq_some_iff]
  constructor
  · intro ⟨steps, cut, followed, held, kept⟩
    exact ⟨⟨steps, cut, followed, held⟩, kept⟩
  · intro ⟨⟨steps, cut, followed, held⟩, kept⟩
    exact ⟨steps, cut, followed, held, kept⟩

theorem AreFiles.find_directory_iff {path : FilePath} {location : Location} :
    (store.withoutAll locations).find path = .ok (location, .directory) ↔
      store.find path = .ok (location, .directory) := by
  rw [FileStore.find_eq_ok_iff, FileStore.find_eq_ok_iff]
  simp only [files.follow_eq_ok_iff, files.nodeAt?_directory_iff]
  rfl

end Removal

/-! ## Quarantine -/

def fileLocation? (store : FileStore) (path : FilePath) : Option Location :=
  match store.find path with
  | .ok (location, .file _) => some location
  | _ => none

theorem fileLocation?_eq_some_iff {store : FileStore} {path : FilePath} {location : Location} :
    store.fileLocation? path = some location ↔
      ∃ content, store.find path = .ok (location, .file content) := by
  rw [fileLocation?]
  constructor
  · intro named
    split at named
    · next held content found =>
      cases named
      exact ⟨content, found⟩
    · cases named
  · intro ⟨content, found⟩
    simp only [found]

/-- Where the files are that the extents of their own among the given ones name. -/
def retired (store : FileStore) (extents : List Extent) : List Location :=
  (extents.filter fun extent => extent.wholeFile).filterMap fun extent =>
    store.fileLocation? extent.path

theorem mem_retired {store : FileStore} {extents : List Extent} {location : Location} :
    location ∈ store.retired extents ↔ ∃ extent ∈ extents, extent.wholeFile = true ∧
      ∃ content, store.find extent.path = .ok (location, .file content) := by
  rw [retired, List.mem_filterMap]
  simp only [List.mem_filter, fileLocation?_eq_some_iff, and_assoc]

theorem areFiles_retired (store : FileStore) (extents : List Extent) :
    store.AreFiles (store.retired extents) := by
  intro location member
  obtain ⟨extent, _, _, content, found⟩ := mem_retired.1 member
  obtain ⟨steps, _, _, held⟩ := find_eq_ok_iff.1 found
  exact ⟨content, held⟩

theorem retired_cons (store : FileStore) (extent : Extent) (extents : List Extent) :
    store.retired (extent :: extents) = store.retired [extent] ++ store.retired extents := by
  rw [retired, ← List.singleton_append, List.filter_append, List.filterMap_append]
  rfl

theorem mem_retired_withoutAll {store : FileStore} {locations : List Location}
    (files : store.AreFiles locations) {extents : List Extent} {location : Location} :
    location ∈ (store.withoutAll locations).retired extents ↔
      location ∈ store.retired extents ∧ location ∉ locations := by
  rw [mem_retired, mem_retired]
  simp only [files.find_eq_ok_iff]
  constructor
  · intro ⟨extent, member, whole, content, found, kept⟩
    exact ⟨⟨extent, member, whole, content, found⟩, kept⟩
  · intro ⟨⟨extent, member, whole, content, found⟩, kept⟩
    exact ⟨extent, member, whole, content, found, kept⟩

end FileStore

/-- A quarantine removes the file that the extent names, if it is a file of its own. -/
theorem Extent.quarantine_snd (extent : Extent) (store : FileStore) :
    (extent.quarantine store).2 = store.withoutAll (store.retired [extent]) := by
  rw [quarantine]
  cases whole : extent.wholeFile with
  | false => simp [FileStore.retired, whole]
  | true =>
    have alone : store.retired [extent] = (store.fileLocation? extent.path).toList := by
      rw [FileStore.retired, List.filter_cons_of_pos whole, List.filter_nil, List.filterMap_cons]
      cases store.fileLocation? extent.path <;> rfl
    rw [if_pos rfl, alone, delete, FileStore.removeFile, FileStore.fileLocation?]
    cases found : store.find extent.path with
    | error cause => cases cause <;> simp
    | ok place =>
      obtain ⟨location, node⟩ := place
      cases node with
      | directory => simp
      | file content => exact store.without_eq_withoutAll location

def quarantineAll (store : FileStore) (extents : List Extent) : FileStore :=
  extents.foldl (fun store extent => (extent.quarantine store).2) store

theorem quarantineAll_cons (store : FileStore) (extent : Extent) (extents : List Extent) :
    quarantineAll store (extent :: extents) = quarantineAll (extent.quarantine store).2 extents :=
  rfl

theorem quarantineAll_append (store : FileStore) (first second : List Extent) :
    quarantineAll store (first ++ second) = quarantineAll (quarantineAll store first) second :=
  List.foldl_append

/-- What a run of quarantines removes can be read off the store before it. -/
theorem quarantineAll_eq (store : FileStore) (extents : List Extent) :
    quarantineAll store extents = store.withoutAll (store.retired extents) := by
  induction extents generalizing store with
  | nil => exact store.withoutAll_nil.symm
  | cons extent extents ih =>
    have files := store.areFiles_retired [extent]
    rw [quarantineAll_cons, extent.quarantine_snd, ih, FileStore.withoutAll_withoutAll,
      store.retired_cons extent extents]
    apply store.withoutAll_congr
    intro location
    rw [List.mem_append, List.mem_append, FileStore.mem_retired_withoutAll files]
    by_cases first : location ∈ store.retired [extent]
    · simp [first]
    · simp [first]

end Lexicon.Storage
