import Lexicon.Proofs.Loader.Answers
import Lexicon.Session
import Mathlib.Data.List.Induction

/-!
# The life cycle of sessions

A history follows a session through switches, ends and consultations, one after another, while anybody
may change the world in between. It keeps every collection that a switch built, every one that was
closed and every number that a switch gave.

Each collection is open when it is built. All but the one in use were closed, once each and in the
order in which they were built, and so the one in use is the only one that is open. Nothing here asks
anything of the supply: a load that fails is a switch to an empty collection.
-/

set_option autoImplicit false

namespace Lexicon.Session

variable {σ : Type}

theorem withCurrent_eq_none_iff {β : Type} {session : Session σ}
    {use : Collection Dictionary → β} :
    session.withCurrent use = none ↔ session.current = none :=
  Option.map_eq_none_iff

theorem withCurrent_of_current {β : Type} {session : Session σ} {collection : Collection Dictionary}
    (current : session.current = some collection) (use : Collection Dictionary → β) :
    session.withCurrent use = some (use collection) := by
  rw [withCurrent, current, Option.map_some]

theorem run_switchTo {session : Session σ} {locale : Option Locale} {before after : σ}
    {collection : Collection Dictionary}
    (loaded : (session.loader.load locale).run before = (collection, after)) :
    (session.switchTo locale).run before =
      ((collection.size,
        { session := { session with current := some collection }
          closed := session.current.map fun previous => previous.close.1 }), after) := by
  rw [switchTo, StateT.run_bind, loaded]
  rfl

inductive Event (σ : Type) where
  | switchTo (locale : Option Locale)
  | tearDown
  | consult
  /-- Somebody else changes the world. -/
  | outside (change : σ → σ)

/-- The events that leave the session as it is. -/
def Event.isQuiet : Event σ → Bool
  | .switchTo _ => false
  | .tearDown => false
  | .consult => true
  | .outside _ => true

/-- In every run the last event that is not quiet can be found, if there is one. -/
theorem quiet_or_exists_last (events : List (Event σ)) :
    (∀ event ∈ events, event.isQuiet = true) ∨
      ∃ before last after, events = before ++ last :: after ∧ last.isQuiet = false ∧
        ∀ event ∈ after, event.isQuiet = true := by
  induction events using List.reverseRecOn with
  | nil => exact .inl (List.forall_mem_nil _)
  | append_singleton events newest ih =>
    cases kind : newest.isQuiet with
    | false => exact .inr ⟨events, newest, [], rfl, kind, List.forall_mem_nil _⟩
    | true =>
      have newestQuiet : ∀ event ∈ [newest], event.isQuiet = true :=
        List.forall_mem_singleton.2 kind
      rcases ih with quiet | ⟨before, last, after, split, loud, quiet⟩
      · exact .inl (List.forall_mem_append.2 ⟨quiet, newestQuiet⟩)
      · right
        refine ⟨before, last, after ++ [newest], ?_, loud, ?_⟩
        · rw [split, List.append_assoc, List.cons_append]
        · exact List.forall_mem_append.2 ⟨quiet, newestQuiet⟩

/-- There was no switch since the start, or none since the last end. -/
def Unloaded (events : List (Event σ)) : Prop :=
  ∀ before locale after, events = before ++ .switchTo locale :: after → .tearDown ∈ after

theorem unloaded_of_quiet {events : List (Event σ)}
    (quiet : ∀ event ∈ events, event.isQuiet = true) : Unloaded events := by
  intro before locale after split
  have among : Event.switchTo locale ∈ events := by
    rw [split]
    exact List.mem_append_right _ List.mem_cons_self
  cases quiet _ among

theorem unloaded_of_last_tearDown {before after : List (Event σ)}
    (quiet : ∀ event ∈ after, event.isQuiet = true) :
    Unloaded (before ++ .tearDown :: after) := by
  intro start locale rest split
  rcases List.append_eq_append_iff.1 split with ⟨between, _, later⟩ | ⟨between, _, later⟩
  · -- the switch comes after the last end, among the quiet events
    cases between with
    | nil => cases later
    | cons first between =>
      exact unloaded_of_quiet quiet between locale rest (List.cons.inj later).2
  · cases between with
    | nil => cases later
    | cons first between =>
      rw [(List.cons.inj later).2]
      exact List.mem_append_right _ List.mem_cons_self

theorem not_unloaded_of_last_switchTo {before after : List (Event σ)} {locale : Option Locale}
    (quiet : ∀ event ∈ after, event.isQuiet = true) :
    ¬ Unloaded (before ++ .switchTo locale :: after) := by
  intro unloaded
  cases quiet _ (unloaded before locale after rfl)

/-- A session in its world, with the numbers that its switches gave, the collections that they built
and those that were closed. -/
structure History (σ : Type) where
  world : σ
  session : Session σ
  counts : List Nat
  built : List (Collection Dictionary)
  closed : List (Collection Dictionary)

namespace History

def start (loader : Loader σ) (world : σ) : History σ :=
  ⟨world, .start loader, [], [], []⟩

def after (history : History σ) : Event σ → History σ
  | .switchTo locale =>
    let ((count, step), world) := (history.session.switchTo locale).run history.world
    { world
      session := step.session
      counts := history.counts ++ [count]
      built := history.built ++ step.session.current.toList
      closed := history.closed ++ step.closed.toList }
  | .tearDown =>
    let step := history.session.tearDown
    { history with
      session := step.session
      closed := history.closed ++ step.closed.toList }
  | .consult => history
  | .outside change => { history with world := change history.world }

def run (history : History σ) (events : List (Event σ)) : History σ :=
  events.foldl after history

theorem run_append (history : History σ) (events others : List (Event σ)) :
    history.run (events ++ others) = (history.run events).run others :=
  List.foldl_append

/-- The collection in use as it is after it was closed. -/
def retired (history : History σ) : List (Collection Dictionary) :=
  (history.session.current.map fun previous => previous.close.1).toList

/-- Every collection that was built, in the order of building, as it is now. -/
def standing (history : History σ) : List (Collection Dictionary) :=
  history.closed ++ history.session.current.toList

def stillOpen (history : History σ) : List (Collection Dictionary) :=
  history.standing.filter fun collection => !collection.isClosed

/-- The history after a switch that built a collection and gave a number. The collection in use until
then is retired. -/
def switched (history : History σ) (collection : Collection Dictionary) (count : Nat) (world : σ) :
    History σ where
  world
  session := { history.session with current := some collection }
  counts := history.counts ++ [count]
  built := history.built ++ [collection]
  closed := history.closed ++ history.retired

def ended (history : History σ) : History σ :=
  { history with
    session := { history.session with current := none }
    closed := history.closed ++ history.retired }

/-- All that an event can do. What a switch builds depends on the loader and the world alone, and it
retires the collection in use even if its load fails. -/
inductive Follows (loader : Loader σ) (history : History σ) : Event σ → History σ → Prop where
  | created {locale : Option Locale} {collection : Collection Dictionary} {world : σ}
      (ran : (loader.create locale).Yields history.world collection world) :
      Follows loader history (.switchTo locale) (history.switched collection collection.size world)
  | failed {locale : Option Locale} {fault : Fault} {world : σ}
      (failed : (loader.create locale).run.run history.world = (.error fault, world)) :
      Follows loader history (.switchTo locale) (history.switched (.empty .main locale) 0 world)
  | ended : Follows loader history .tearDown history.ended
  | consulted : Follows loader history .consult history
  | changed (change : σ → σ) :
      Follows loader history (.outside change) { history with world := change history.world }

theorem after_switchTo {history : History σ} {locale : Option Locale}
    {collection : Collection Dictionary} {world : σ}
    (loaded : (history.session.loader.load locale).run history.world = (collection, world)) :
    history.after (.switchTo locale) = history.switched collection collection.size world := by
  rw [after, run_switchTo loaded]
  rfl

theorem follows_after {loader : Loader σ} {history : History σ}
    (same : history.session.loader = loader) (event : Event σ) :
    Follows loader history event (history.after event) := by
  subst same
  cases event with
  | switchTo locale =>
    cases outcome : (history.session.loader.create locale).run.run history.world with
    | mk result world =>
      cases result with
      | ok collection =>
        rw [after_switchTo (Loader.load_of_yields outcome)]
        exact .created outcome
      | error fault =>
        rw [after_switchTo (Loader.load_of_fault outcome)]
        exact .failed outcome
  | tearDown => exact .ended
  | consult => exact .consulted
  | outside change => exact .changed change

theorem Follows.exists_switched {loader : Loader σ} {history later : History σ}
    {locale : Option Locale} (follows : Follows loader history (.switchTo locale) later) :
    ∃ collection world, later = history.switched collection collection.size world ∧
      collection.IsMainFor locale := by
  cases follows with
  | created ran => exact ⟨_, _, rfl, loader.answers_create locale _ _ _ ran⟩
  | failed _ => exact ⟨_, _, rfl, Collection.isMainFor_ofMembers locale []⟩

/-- What is true of a history at every moment. All collections that were built before the one in use
were closed, once each and in order, and nothing else was. -/
structure Kept (loader : Loader σ) (history : History σ) : Prop where
  loader : history.session.loader = loader
  counts : history.counts = history.built.map Collection.size
  unclosed : ∀ collection ∈ history.built, collection.isClosed = false
  settled : ∃ earlier, history.built = earlier ++ history.session.current.toList ∧
    history.closed = earlier.map fun collection => collection.close.1

theorem kept_start (loader : Loader σ) (world : σ) : (start loader world).Kept loader := by
  exact ⟨rfl, rfl, List.forall_mem_nil _, [], rfl, rfl⟩

section Kept

variable {loader : Loader σ} {history : History σ}

/-- Once the collection in use is retired, all collections are. -/
theorem Kept.closed_append_retired (kept : history.Kept loader) :
    history.closed ++ history.retired = history.built.map fun collection => collection.close.1 := by
  obtain ⟨earlier, built, closed⟩ := kept.settled
  rw [built, closed, List.map_append, retired]
  cases history.session.current <;> rfl

theorem Kept.switched (kept : history.Kept loader) {collection : Collection Dictionary}
    (unclosed : collection.isClosed = false) (world : σ) :
    (history.switched collection collection.size world).Kept loader := by
  refine ⟨kept.loader, ?_, ?_, history.built, rfl, kept.closed_append_retired⟩
  · rw [History.switched, kept.counts, List.map_append]
    rfl
  · exact List.forall_mem_append.2 ⟨kept.unclosed, List.forall_mem_singleton.2 unclosed⟩

theorem Kept.of_follows (kept : history.Kept loader) {event : Event σ} {later : History σ}
    (follows : Follows loader history event later) : later.Kept loader := by
  cases event with
  | switchTo locale =>
    obtain ⟨collection, world, rfl, isMainFor⟩ := follows.exists_switched
    exact kept.switched isMainFor.unclosed world
  | tearDown =>
    cases follows
    exact ⟨kept.loader, kept.counts, kept.unclosed, history.built, (List.append_nil _).symm,
      kept.closed_append_retired⟩
  | consult =>
    cases follows
    exact kept
  | outside change =>
    cases follows
    exact ⟨kept.loader, kept.counts, kept.unclosed, kept.settled⟩

theorem Kept.run (kept : history.Kept loader) (events : List (Event σ)) :
    (history.run events).Kept loader := by
  induction events generalizing history with
  | nil => exact kept
  | cons event rest ih => exact ih (kept.of_follows (follows_after kept.loader event))

theorem Kept.closed_of_mem (kept : history.Kept loader) {collection : Collection Dictionary}
    (member : collection ∈ history.closed) :
    collection.isClosed = true ∧ collection.members = [] := by
  obtain ⟨earlier, _, closed⟩ := kept.settled
  rw [closed, List.mem_map] at member
  obtain ⟨previous, _, same⟩ := member
  rw [← same]
  exact ⟨previous.isClosed_close, previous.members_close⟩

theorem Kept.open_of_current (kept : history.Kept loader) {collection : Collection Dictionary}
    (member : collection ∈ history.session.current.toList) : collection.isClosed = false := by
  obtain ⟨earlier, built, _⟩ := kept.settled
  apply kept.unclosed
  rw [built]
  exact List.mem_append_right _ member

/-- Of all collections that were built only the one in use is open. -/
theorem Kept.stillOpen_eq (kept : history.Kept loader) :
    history.stillOpen = history.session.current.toList := by
  have closed : history.closed.filter (fun collection => !collection.isClosed) = [] := by
    rw [List.filter_eq_nil_iff]
    intro collection member
    simp [(kept.closed_of_mem member).1]
  have inUse : history.session.current.toList.filter (fun collection => !collection.isClosed) =
      history.session.current.toList := by
    rw [List.filter_eq_self]
    intro collection member
    simp [kept.open_of_current member]
  rw [stillOpen, standing, List.filter_append, closed, inUse, List.nil_append]

theorem Kept.length_standing (kept : history.Kept loader) :
    history.standing.length = history.built.length := by
  obtain ⟨earlier, built, closed⟩ := kept.settled
  rw [standing, built, closed, List.length_append, List.length_append, List.length_map]

theorem Kept.length_built_le (kept : history.Kept loader) :
    history.built.length ≤ history.closed.length + 1 := by
  obtain ⟨earlier, built, closed⟩ := kept.settled
  rw [built, closed, List.length_append, List.length_map]
  exact Nat.add_le_add_left Option.length_toList_le _

end Kept

theorem session_run_of_quiet {history : History σ} {events : List (Event σ)}
    (quiet : ∀ event ∈ events, event.isQuiet = true) :
    (history.run events).session = history.session := by
  induction events generalizing history with
  | nil => rfl
  | cons event rest ih =>
    obtain ⟨first, others⟩ := List.forall_mem_cons.1 quiet
    refine (ih others).trans ?_
    cases event with
    | switchTo locale => cases first
    | tearDown => cases first
    | consult => rfl
    | outside change => rfl

/-- The last switch of a run and what it built. Nothing but quiet events came after it. -/
inductive BuiltLast (loader : Loader σ) (world : σ) :
    List (Event σ) → Collection Dictionary → Prop where
  | intro {before after : List (Event σ)} {locale : Option Locale} {ended : σ}
      {collection : Collection Dictionary} (quiet : ∀ event ∈ after, event.isQuiet = true)
      (reached : (start loader world).run (before ++ [.switchTo locale]) =
        ((start loader world).run before).switched collection collection.size ended)
      (follows : Follows loader ((start loader world).run before) (.switchTo locale)
        (((start loader world).run before).switched collection collection.size ended))
      (isMainFor : collection.IsMainFor locale) :
      BuiltLast loader world (before ++ .switchTo locale :: after) collection

section Run

variable (loader : Loader σ) (world : σ)

theorem kept_run (events : List (Event σ)) : ((start loader world).run events).Kept loader :=
  (kept_start loader world).run events

theorem follows_run (events : List (Event σ)) (next : Event σ) :
    Follows loader ((start loader world).run events) next
      ((start loader world).run (events ++ [next])) := by
  rw [run_append]
  exact follows_after (kept_run loader world events).loader next

/-- The last event that is not quiet decides what the session holds. -/
theorem session_run_of_last (before : List (Event σ)) (last : Event σ) {after : List (Event σ)}
    (quiet : ∀ event ∈ after, event.isQuiet = true) :
    ((start loader world).run (before ++ last :: after)).session =
      ((start loader world).run (before ++ [last])).session := by
  rw [← List.singleton_append, ← List.append_assoc, run_append]
  exact session_run_of_quiet quiet

theorem unloaded_or_builtLast (events : List (Event σ)) :
    (Unloaded events ∧ ((start loader world).run events).session.current = none) ∨
      (¬ Unloaded events ∧ ∃ collection, BuiltLast loader world events collection ∧
        ((start loader world).run events).session.current = some collection) := by
  rcases quiet_or_exists_last events with quiet | ⟨before, last, after, rfl, loud, quiet⟩
  · left
    exact ⟨unloaded_of_quiet quiet, by rw [session_run_of_quiet quiet]; rfl⟩
  · rw [session_run_of_last loader world before last quiet]
    have follows := follows_run loader world before last
    cases last with
    | switchTo locale =>
      obtain ⟨collection, ended, reached, isMainFor⟩ := follows.exists_switched
      rw [reached] at follows ⊢
      right
      exact ⟨not_unloaded_of_last_switchTo quiet, collection,
        .intro quiet reached follows isMainFor, rfl⟩
    | tearDown =>
      left
      refine ⟨unloaded_of_last_tearDown quiet, ?_⟩
      rw [run_append]
      rfl
    | consult => cases loud
    | outside change => cases loud

theorem after_tearDown_of_unloaded {history : History σ}
    (none_loaded : history.session.current = none) : history.after .tearDown = history := by
  obtain ⟨world, ⟨loader, current⟩, counts, built, closed⟩ := history
  cases none_loaded
  change History.mk world ⟨loader, none⟩ counts built (closed ++ []) = _
  rw [List.append_nil]

/-- Whatever a supply does and whatever happens in between, a run keeps the life cycle of its session.
A consultation finds the collection that the last switch built, or nothing if there is none since the
last end; the collections of earlier switches were closed once each, so that no other is open. -/
theorem run_life_cycle (events : List (Event σ)) :
    ((start loader world).run events).Kept loader ∧
    ((start loader world).run events).built.length ≤
      ((start loader world).run events).closed.length + 1 ∧
    (∀ collection ∈ ((start loader world).run events).closed,
      collection.isClosed = true ∧ collection.members = []) ∧
    ((start loader world).run events).standing.length =
      ((start loader world).run events).built.length ∧
    ((start loader world).run events).stillOpen =
      ((start loader world).run events).session.current.toList ∧
    ((start loader world).run events).stillOpen.length ≤ 1 ∧
    (∀ next, Follows loader ((start loader world).run events) next
      ((start loader world).run (events ++ [next]))) ∧
    (∀ (β : Type) (use : Collection Dictionary → β),
      ((start loader world).run events).session.withCurrent use = none ↔ Unloaded events) ∧
    (¬ Unloaded events → ∃ collection, BuiltLast loader world events collection ∧
      ∀ (β : Type) (use : Collection Dictionary → β),
        ((start loader world).run events).session.withCurrent use = some (use collection)) ∧
    (Unloaded events →
      (start loader world).run (events ++ [.tearDown]) = (start loader world).run events) := by
  have kept := kept_run loader world events
  refine ⟨kept, kept.length_built_le, fun _ => kept.closed_of_mem, kept.length_standing,
    kept.stillOpen_eq, ?_, follows_run loader world events, ?_⟩
  · rw [kept.stillOpen_eq]
    exact Option.length_toList_le
  rcases unloaded_or_builtLast loader world events with
    ⟨unloaded, current⟩ | ⟨loaded, collection, builtLast, current⟩
  · refine ⟨?_, fun loaded => absurd unloaded loaded, ?_⟩
    · intro β use
      exact iff_of_true (withCurrent_eq_none_iff.2 current) unloaded
    · intro _
      rw [run_append]
      exact after_tearDown_of_unloaded current
  · refine ⟨?_, ?_, fun unloaded => absurd unloaded loaded⟩
    · intro β use
      refine iff_of_false ?_ loaded
      rw [withCurrent_of_current current]
      exact Option.some_ne_none _
    · intro _
      exact ⟨collection, builtLast, fun β use => withCurrent_of_current current use⟩

end Run

/-- A supply that has one empty dictionary for no locale while its world is true, and fails after. -/
def untilFalse : Supply Bool where
  customOverride _ := return none
  assetSources _ := return []
  embeddedFallback _ := do
    if ← get then return some ⟨⟨"neutral"⟩, 0, 0, false⟩ else throw .uncaught
  openExtent _ locale category := return .valid (.collection (.empty category locale))
  release _ := return
  quarantine _ := return .notDeletable

theorem run_life_cycle_of_late_failure :
    let loader : Loader Bool := { supply := untilFalse }
    let events : List (Event Bool) := [.switchTo none, .outside fun _ => false, .switchTo none]
    ¬ Unloaded events ∧
      (∃ collection, BuiltLast loader true events collection ∧
        ((start loader true).run events).session.withCurrent Collection.size =
          some collection.size) ∧
      ((start loader true).run events).counts = [1, 0] ∧
      ((start loader true).run events).closed.map Collection.isClosed = [true] ∧
      ((start loader true).run events).stillOpen.length = 1 ∧
      Unloaded (events ++ [.tearDown]) ∧
      (start loader true).run (events ++ [.tearDown, .tearDown]) =
        (start loader true).run (events ++ [.tearDown]) := by
  intro loader events
  have loaded : ¬ Unloaded events := by
    intro unloaded
    cases unloaded [.switchTo none, .outside fun _ => false] none [] rfl
  have unloaded : Unloaded (events ++ [.tearDown]) :=
    unloaded_of_last_tearDown (List.forall_mem_nil _)
  obtain ⟨_, _, _, _, _, _, _, _, inUse, _⟩ := run_life_cycle loader true events
  obtain ⟨_, _, _, _, _, _, _, _, _, idle⟩ := run_life_cycle loader true (events ++ [.tearDown])
  obtain ⟨collection, builtLast, found⟩ := inUse loaded
  exact ⟨loaded, ⟨collection, builtLast, found Nat Collection.size⟩, rfl, rfl, rfl, unloaded,
    idle unloaded⟩

end History

end Lexicon.Session
