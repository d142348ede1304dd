import Lexicon.Proofs.Storage.Removal
import Mathlib.Data.List.Basic

/-!
# Sequences of quarantines

What a sequence of quarantines does to a store, whatever the extents are: files of their own, parts of
packages, several spellings of one path, paths that lead to a directory, through a file or nowhere. A
single outcome depends on what was removed before it. The store in the end does not depend on the
order, and the outcomes count the files that are gone.
-/

set_option autoImplicit false

namespace Lexicon.Storage

namespace FileStore

/-- Removing files makes nothing appear where a path led to nothing. -/
theorem AreFiles.follow_notFound {store : FileStore} {locations : List Location}
    (files : store.AreFiles locations) {steps : List String} {start : Location}
    (lost : store.follow start steps = .error .notFound) :
    (store.withoutAll locations).follow start steps = .error .notFound := by
  induction steps generalizing start with
  | nil => cases lost
  | cons step rest ih =>
    rw [follow] at lost ⊢
    cases held : store.nodeAt? start with
    | none =>
      have gone : (store.withoutAll locations).nodeAt? start = none := by
        rw [Option.eq_none_iff_forall_ne_some]
        intro node stands
        have stood := (files.nodeAt?_eq_some_iff.1 stands).1
        rw [held] at stood
        cases stood
      simp only [gone]
    | some node =>
      cases node with
      | file content => simp [held] at lost
      | directory =>
        simp only [files.nodeAt?_directory_iff.2 held]
        simp only [held] at lost
        cases entered : enter start step with
        | error cause =>
          simp only [entered] at lost ⊢
          exact lost
        | ok next =>
          simp only [entered] at lost ⊢
          exact ih lost

theorem AreFiles.find_notFound {store : FileStore} {locations : List Location}
    (files : store.AreFiles locations) {path : FilePath}
    (lost : store.find path = .error .notFound) :
    (store.withoutAll locations).find path = .error .notFound := by
  have sameStart : (store.withoutAll locations).start path = store.start path := rfl
  rw [find] at lost ⊢
  cases cut : stepsOf path with
  | error cause =>
    simp only [cut] at lost ⊢
    exact lost
  | ok steps =>
    simp only [cut, sameStart] at lost ⊢
    cases followed : store.follow (store.start path) steps with
    | error cause =>
      simp only [followed, Except.error.injEq] at lost
      subst lost
      simp only [files.follow_notFound followed]
    | ok location =>
      simp only [followed] at lost
      simp only [files.follow_eq_ok_iff.2 followed]
      cases held : store.nodeAt? location with
      | some node => simp [held] at lost
      | none =>
        cases stands : (store.withoutAll locations).nodeAt? location with
        | none => rfl
        | some node =>
          have stood := (files.nodeAt?_eq_some_iff.1 stands).1
          rw [held] at stood
          cases stood

theorem find_without_of_find {store : FileStore} {path : FilePath} {location : Location}
    {content : Content} (found : store.find path = .ok (location, .file content)) :
    (store.without location).find path = .error .notFound := by
  obtain ⟨steps, cut, followed, held⟩ := find_eq_ok_iff.1 found
  have files : store.AreFiles [location] := by
    intro other member
    rw [List.mem_singleton] at member
    exact ⟨content, member ▸ held⟩
  have gone : (store.withoutAll [location]).nodeAt? location = none :=
    store.nodeAt?_withoutAll_of_mem (List.mem_singleton_self location)
      (files.ne_nil (List.mem_singleton_self location))
  have sameStart : (store.withoutAll [location]).start path = store.start path := rfl
  rw [without_eq_withoutAll, find]
  simp only [cut, sameStart, files.follow_eq_ok_iff.2 followed, gone]

theorem length_nodes_without {store : FileStore} {location : Location} {node : Node}
    (below : location ≠ []) (held : store.nodeAt? location = some node) :
    (store.without location).nodes.length + 1 = store.nodes.length := by
  have listed : location ∈ store.nodes.map Prod.fst :=
    List.mem_map.2 ⟨_, (nodeAt?_eq_some_iff_mem below).1 held, rfl⟩
  have keys : (store.without location).nodes.map Prod.fst =
      (store.nodes.map Prod.fst).erase location := by
    rw [store.distinct.erase_eq_filter, List.filter_map]
    rfl
  have shorter := congrArg List.length keys
  have filled := List.length_pos_of_mem listed
  rw [List.length_map, List.length_erase_of_mem listed, List.length_map] at shorter
  rw [List.length_map] at filled
  omega

end FileStore

namespace Extent

/-- All that a quarantine can do. -/
inductive Retires (extent : Extent) (store : FileStore) : Quarantine → FileStore → Prop where
  | leaves : extent.wholeFile = false → Retires extent store .notDeletable store
  | deletes {location : Location} {content : Content} : extent.wholeFile = true →
      store.find extent.path = .ok (location, .file content) →
      Retires extent store .deleted (store.without location)
  | misses : extent.wholeFile = true → store.find extent.path = .error .notFound →
      Retires extent store .alreadyGone store
  | fails {cause : IoError} : extent.wholeFile = true → cause ≠ .notFound →
      extent.delete store = .error cause → Retires extent store (.failed cause) store

section Retires

variable {extent : Extent} {store after : FileStore} {outcome : Quarantine}

theorem delete_of_find_error {cause : IoError} (lost : store.find extent.path = .error cause) :
    extent.delete store = .error cause := by
  rw [delete, FileStore.removeFile, lost]

theorem retires_quarantine (extent : Extent) (store : FileStore) :
    extent.Retires store (extent.quarantine store).1 (extent.quarantine store).2 := by
  rw [quarantine]
  cases whole : extent.wholeFile with
  | false => exact .leaves whole
  | true =>
    rw [if_pos rfl]
    cases found : store.find extent.path with
    | error cause =>
      have refused := delete_of_find_error found
      cases cause with
      | notFound =>
        simp only [refused]
        exact .misses whole found
      | isADirectory | notADirectory | alreadyExists | nameTooLong | invalidPath =>
        simp only [refused]
        exact .fails whole (by simp) refused
    | ok place =>
      obtain ⟨location, node⟩ := place
      cases node with
      | directory =>
        have refused : extent.delete store = .error .isADirectory := by
          simp only [delete, FileStore.removeFile, found]
        simp only [refused]
        exact .fails whole (by simp) refused
      | file content =>
        have removed : extent.delete store = .ok (store.without location) := by
          simp only [delete, FileStore.removeFile, found]
        simp only [removed]
        exact .deletes whole found

theorem quarantine_of_find_notFound (whole : extent.wholeFile = true)
    (lost : store.find extent.path = .error .notFound) :
    extent.quarantine store = (.alreadyGone, store) := by
  simp only [quarantine, whole, if_true, delete_of_find_error lost]

/-- Once an extent is deleted or found gone, its path leads to nothing. -/
theorem Retires.find_notFound (retires : extent.Retires store outcome after)
    (settled : outcome = .deleted ∨ outcome = .alreadyGone) :
    extent.wholeFile = true ∧ after.find extent.path = .error .notFound := by
  cases retires with
  | leaves | fails => simp at settled
  | deletes whole found => exact ⟨whole, FileStore.find_without_of_find found⟩
  | misses whole lost => exact ⟨whole, lost⟩

theorem Retires.eq_of_failed {cause : IoError}
    (retires : extent.Retires store (.failed cause) after) : after = store := by
  cases retires with
  | fails => rfl

/-- Only a deletion takes something away, and it takes one file. -/
theorem Retires.length_nodes (retires : extent.Retires store outcome after) :
    [outcome].count .deleted + after.nodes.length = store.nodes.length := by
  cases retires with
  | leaves | misses | fails => simp
  | deletes whole found =>
    obtain ⟨_, _, _, held⟩ := FileStore.find_eq_ok_iff.1 found
    have below : ∀ location : Location, ∀ content,
        store.nodeAt? location = some (.file content) → location ≠ [] := by
      rintro _ content root rfl
      simp [FileStore.nodeAt?] at root
    have shorter := FileStore.length_nodes_without (below _ _ held) held
    simp only [List.count_singleton_self]
    omega

end Retires

end Extent

/-! ## Sequences -/

/-- What each quarantine of a sequence says. -/
def outcomes (store : FileStore) : List Extent → List Quarantine
  | [] => []
  | extent :: rest => (extent.quarantine store).1 :: outcomes (extent.quarantine store).2 rest

theorem outcomes_append (store : FileStore) (first second : List Extent) :
    outcomes store (first ++ second) =
      outcomes store first ++ outcomes (quarantineAll store first) second := by
  induction first generalizing store with
  | nil => rfl
  | cons extent rest ih =>
    rw [List.cons_append, outcomes, outcomes, ih, quarantineAll_cons, List.cons_append]

theorem length_outcomes (store : FileStore) (extents : List Extent) :
    (outcomes store extents).length = extents.length := by
  induction extents generalizing store with
  | nil => rfl
  | cons extent rest ih => rw [outcomes, List.length_cons, ih, List.length_cons]

theorem count_deleted_outcomes (store : FileStore) (extents : List Extent) :
    (outcomes store extents).count .deleted + (quarantineAll store extents).nodes.length =
      store.nodes.length := by
  induction extents generalizing store with
  | nil => simp [outcomes, quarantineAll]
  | cons extent rest ih =>
    have first := (extent.retires_quarantine store).length_nodes
    have later := ih (extent.quarantine store).2
    rw [outcomes, quarantineAll_cons, List.count_cons]
    rw [List.count_singleton] at first
    omega

/-- The location is that of a file that some extent of its own names. -/
def Retired (store : FileStore) (extents : List Extent) (location : Location) : Prop :=
  ∃ extent ∈ extents, extent.wholeFile = true ∧
    ∃ content, store.find extent.path = .ok (location, .file content)

theorem quarantineAll_perm {extents reordered : List Extent} (same : reordered.Perm extents)
    (store : FileStore) : quarantineAll store reordered = quarantineAll store extents := by
  rw [quarantineAll_eq, quarantineAll_eq]
  apply store.withoutAll_congr
  intro location
  simp only [FileStore.mem_retired, same.mem_iff]

theorem nodeAt?_quarantineAll {store : FileStore} {extents : List Extent} {location : Location}
    {node : Node} :
    (quarantineAll store extents).nodeAt? location = some node ↔
      store.nodeAt? location = some node ∧ ¬ Retired store extents location := by
  rw [quarantineAll_eq, (store.areFiles_retired extents).nodeAt?_eq_some_iff,
    FileStore.mem_retired, Retired]

theorem sublist_quarantineAll (store : FileStore) (extents : List Extent) :
    (quarantineAll store extents).nodes.Sublist store.nodes := by
  rw [quarantineAll_eq]
  exact List.filter_sublist

theorem find_notFound_quarantineAll {store : FileStore} {path : FilePath}
    (lost : store.find path = .error .notFound) (extents : List Extent) :
    (quarantineAll store extents).find path = .error .notFound := by
  rw [quarantineAll_eq]
  exact (store.areFiles_retired extents).find_notFound lost

theorem exists_gone (store : FileStore) (extents : List Extent) :
    ∃ gone : List Location, gone.Nodup ∧
      (∀ location, location ∈ gone ↔ Retired store extents location) ∧
      gone.length + (quarantineAll store extents).nodes.length = store.nodes.length := by
  -- Several extents may name one file, so the locations are taken from the store, where each is once.
  let leaves : Location × Node → Bool := fun entry => decide (entry.1 ∈ store.retired extents)
  refine ⟨(store.nodes.filter leaves).map Prod.fst, ?_, ?_, ?_⟩
  · exact (List.filter_sublist.map Prod.fst).nodup store.distinct
  · intro location
    rw [Retired, ← FileStore.mem_retired, List.mem_map]
    constructor
    · rintro ⟨entry, member, rfl⟩
      exact of_decide_eq_true (List.mem_filter.1 member).2
    · intro retired
      have files := store.areFiles_retired extents
      obtain ⟨content, held⟩ := files location retired
      have member := (FileStore.nodeAt?_eq_some_iff_mem (files.ne_nil retired)).1 held
      exact ⟨_, List.mem_filter.2 ⟨member, decide_eq_true retired⟩, rfl⟩
  · have kept : (quarantineAll store extents).nodes =
        store.nodes.filter fun entry => !leaves entry := by
      rw [quarantineAll_eq]
      apply List.filter_congr
      intro entry _
      exact decide_not
    rw [kept, List.length_map]
    exact (List.length_eq_length_filter_add leaves).symm

/-- What a sequence of quarantines leaves behind, and how many deletions it tells of. -/
structure Purged (store : FileStore) (extents : List Extent) (said : List Quarantine)
    (after : FileStore) : Prop where
  workingDirectory : after.workingDirectory = store.workingDirectory
  sublist : after.nodes.Sublist store.nodes
  stands : ∀ location node, after.nodeAt? location = some node ↔
    store.nodeAt? location = some node ∧ ¬ Retired store extents location
  directories : ∀ location, store.nodeAt? location = some .directory →
    after.nodeAt? location = some .directory
  parts : ∀ location,
    (∀ extent ∈ extents, ∀ content, store.find extent.path = .ok (location, .file content) →
      extent.wholeFile = false) →
    after.nodeAt? location = store.nodeAt? location
  counted : ∃ gone : List Location, gone.Nodup ∧
    (∀ location, location ∈ gone ↔
      (∃ content, store.nodeAt? location = some (.file content)) ∧
        after.nodeAt? location = none) ∧
    said.count .deleted = gone.length

/-- What one quarantine says and does after those of other extents. -/
structure Tells (store : FileStore) (before : List Extent) (extent : Extent) (said : Quarantine) :
    Prop where
  part : extent.wholeFile = false → said = .notDeletable
  failed : ∀ cause, said = .failed cause →
    quarantineAll store (before ++ [extent]) = quarantineAll store before
  settled : said = .deleted ∨ said = .alreadyGone → ∀ between,
    extent.quarantine (quarantineAll store (before ++ extent :: between)) =
        (.alreadyGone, quarantineAll store (before ++ extent :: between)) ∧
      Extent.ofFile? (quarantineAll store (before ++ extent :: between)) extent.path = none

theorem purged_quarantineAll (store : FileStore) (extents : List Extent) :
    Purged store extents (outcomes store extents) (quarantineAll store extents) := by
  have files := store.areFiles_retired extents
  constructor
  · rw [quarantineAll_eq]
    rfl
  · exact sublist_quarantineAll store extents
  · intro location node
    exact nodeAt?_quarantineAll
  · intro location directory
    rw [quarantineAll_eq]
    exact files.nodeAt?_directory_iff.2 directory
  · intro location named
    rw [quarantineAll_eq]
    apply store.nodeAt?_withoutAll
    intro retired
    obtain ⟨extent, member, whole, content, found⟩ := FileStore.mem_retired.1 retired
    exact absurd (whole.symm.trans (named extent member content found)) (by simp)
  · obtain ⟨gone, distinct, listed, total⟩ := exists_gone store extents
    refine ⟨gone, distinct, ?_, ?_⟩
    · intro location
      rw [listed, Option.eq_none_iff_forall_ne_some]
      simp only [ne_eq, nodeAt?_quarantineAll]
      constructor
      · intro retired
        obtain ⟨content, held⟩ := files location (FileStore.mem_retired.2 retired)
        exact ⟨⟨content, held⟩, fun _ stands => stands.2 retired⟩
      · rintro ⟨⟨content, held⟩, missing⟩
        apply Classical.byContradiction
        intro kept
        exact missing _ ⟨held, kept⟩
    · have said := count_deleted_outcomes store extents
      omega

theorem tells_quarantine (store : FileStore) (before : List Extent) (extent : Extent) :
    Tells store before extent (extent.quarantine (quarantineAll store before)).1 := by
  have retires := extent.retires_quarantine (quarantineAll store before)
  have next : ∀ between, quarantineAll store (before ++ extent :: between) =
      quarantineAll (extent.quarantine (quarantineAll store before)).2 between := by
    intro between
    rw [quarantineAll_append, quarantineAll_cons]
  generalize extent.quarantine (quarantineAll store before) = result at retires next
  obtain ⟨said, after⟩ := result
  constructor
  · intro part
    cases retires with
    | leaves => rfl
    | deletes whole | misses whole | fails whole => exact absurd (whole.symm.trans part) (by simp)
  · rintro cause rfl
    rw [next]
    exact retires.eq_of_failed
  · intro settled between
    obtain ⟨whole, lost⟩ := retires.find_notFound settled
    have still := find_notFound_quarantineAll lost between
    rw [next]
    refine ⟨Extent.quarantine_of_find_notFound whole still, ?_⟩
    simp only [Extent.ofFile?, FileStore.file?, still]

/-- A sequence of quarantines takes away the files that its extents of their own name, in whatever
order they come, and nothing else; each file is counted once. Parts of packages are never deleted, a
failure changes nothing, and what is gone stays gone. -/
theorem quarantineAll_exact (store : FileStore) (extents : List Extent) :
    Purged store extents (outcomes store extents) (quarantineAll store extents) ∧
      (∀ reordered : List Extent, reordered.Perm extents →
        quarantineAll store reordered = quarantineAll store extents) ∧
      ∀ before extent rest, extents = before ++ extent :: rest →
        ∃ said, (outcomes store extents)[before.length]? = some said ∧
          Tells store before extent said := by
  refine ⟨purged_quarantineAll store extents, ?_, ?_⟩
  · intro reordered same
    exact quarantineAll_perm same store
  · rintro before extent rest rfl
    refine ⟨_, ?_, tells_quarantine store before extent⟩
    have length : (outcomes store before).length = before.length := length_outcomes store before
    rw [outcomes_append, ← length, List.getElem?_append_right (Nat.le_refl _), Nat.sub_self]
    rfl

/-- A store with a package and a directory that holds one file. -/
def shelved : FileStore where
  nodes := [(["app.pkg"], .file ⟨[1, 2], by decide⟩), (["d"], .directory),
    (["d", "bad.dict"], .file ⟨[0xFF], by decide⟩)]
  workingDirectory := []
  distinct := by decide
  named := by decide

/-- One file under three spellings, one of which leads through it, its directory, and a part of the
package. Which outcome is which depends on the order. -/
theorem quarantineAll_exact_shelved :
    ∃ through whole again directory part : Extent,
      outcomes shelved [through, whole, again, directory, part] =
          [.failed .notADirectory, .deleted, .alreadyGone, .failed .isADirectory,
            .notDeletable] ∧
        outcomes shelved [again, whole, part, through, directory] =
          [.deleted, .alreadyGone, .notDeletable, .alreadyGone, .failed .isADirectory] ∧
        quarantineAll shelved [again, whole, part, through, directory] =
          quarantineAll shelved [through, whole, again, directory, part] ∧
        Purged shelved [through, whole, again, directory, part]
          [.failed .notADirectory, .deleted, .alreadyGone, .failed .isADirectory, .notDeletable]
          (quarantineAll shelved [through, whole, again, directory, part]) ∧
        Tells shelved [through] whole .deleted := by
  let through : Extent := ⟨⟨"d/bad.dict/."⟩, 0, 1, true⟩
  let whole : Extent := ⟨⟨"d/bad.dict"⟩, 0, 1, true⟩
  let again : Extent := ⟨⟨"./d//bad.dict"⟩, 0, 1, true⟩
  let directory : Extent := ⟨⟨"d"⟩, 0, 1, true⟩
  let part : Extent := ⟨⟨"app.pkg"⟩, 0, 2, false⟩
  have said : outcomes shelved [through, whole, again, directory, part] =
      [.failed .notADirectory, .deleted, .alreadyGone, .failed .isADirectory,
        .notDeletable] := by decide
  obtain ⟨purged, ordered, told⟩ :=
    quarantineAll_exact shelved [through, whole, again, directory, part]
  rw [said] at purged told
  refine ⟨through, whole, again, directory, part, said, by decide, ordered _ ?_, purged, ?_⟩
  · decide
  · obtain ⟨_, place, tells⟩ := told [through] whole [again, directory, part] rfl
    cases place
    exact tells

end Lexicon.Storage
