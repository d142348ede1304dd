import Lexicon.Collection
import Mathlib.Data.List.Basic

/-!
# The ledger of a collection

Whatever is done to a collection, every member that was ever handed in has exactly one fate: it is a
member still, or it was handed back once and not released, or it was released once. The book of a run
has one line for each arrival, in order, and the collection, what was handed back and what was
released can be read off it. A member that comes back after it was handed back is a new arrival.

The first close settles the ledger: it releases all members, later arrivals are released as they come,
and nothing is released a second time.
-/

set_option autoImplicit false

namespace Lexicon.Collection

variable {α : Type}

inductive Operation (α : Type) where
  | add (member : α)
  | detach (index : Nat)
  | close

def addedIn : List (Operation α) → List α
  | [] => []
  | .add member :: rest => member :: addedIn rest
  | .detach _ :: rest => addedIn rest
  | .close :: rest => addedIn rest

theorem addedIn_cons (operation : Operation α) (rest : List (Operation α)) :
    addedIn (operation :: rest) = addedIn [operation] ++ addedIn rest := by
  cases operation <;> rfl

/-- A collection with all that was handed in, handed back and released so far, each in order. -/
structure Ledger (α : Type) where
  collection : Collection α
  arrived : List α
  detached : List α
  released : List α

inductive Fate where
  | member
  | detached
  | released
  deriving DecidableEq

/-- The arrivals of one fate. -/
def withFate (fate : Fate) (book : List (α × Fate)) : List α :=
  (book.filter fun line => line.2 = fate).map Prod.fst

theorem withFate_cons (fate : Fate) (line : α × Fate) (rest : List (α × Fate)) :
    withFate fate (line :: rest) =
      if line.2 = fate then line.1 :: withFate fate rest else withFate fate rest := by
  by_cases same : line.2 = fate <;> simp [withFate, same]

theorem withFate_append (fate : Fate) (left right : List (α × Fate)) :
    withFate fate (left ++ right) = withFate fate left ++ withFate fate right := by
  rw [withFate, List.filter_append, List.map_append, withFate, withFate]

/-- The three fates share the book out among them. -/
theorem withFate_perm (book : List (α × Fate)) :
    (withFate .detached book ++ (withFate .released book ++ withFate .member book)).Perm
      (book.map Prod.fst) := by
  induction book with
  | nil => exact .nil
  | cons line rest ih =>
    obtain ⟨first, fate⟩ := line
    rw [withFate_cons, withFate_cons, withFate_cons, List.map_cons]
    cases fate with
    | detached => exact ih.cons first
    | released => exact List.perm_middle.trans (ih.cons first)
    | member =>
      have later := ih
      rw [← List.append_assoc] at later ⊢
      exact List.perm_middle.trans (later.cons first)

theorem exists_line {book : List (α × Fate)} {fate : Fate} {index : Nat} {member : α}
    (found : (withFate fate book)[index]? = some member) :
    ∃ before after, book = before ++ (member, fate) :: after ∧
      (withFate fate before).length = index := by
  induction book generalizing index with
  | nil => cases found
  | cons line rest ih =>
    obtain ⟨first, other⟩ := line
    rw [withFate_cons] at found
    by_cases same : other = fate
    · rw [if_pos same] at found
      cases index with
      | zero =>
        cases found
        exact ⟨[], rest, by rw [same]; rfl, rfl⟩
      | succ index =>
        obtain ⟨before, after, split, length⟩ := ih found
        refine ⟨(first, other) :: before, after, congrArg ((first, other) :: ·) split, ?_⟩
        rw [withFate_cons, if_pos same, List.length_cons, length]
    · rw [if_neg same] at found
      obtain ⟨before, after, split, length⟩ := ih found
      refine ⟨(first, other) :: before, after, congrArg ((first, other) :: ·) split, ?_⟩
      rw [withFate_cons, if_neg same, length]

/-- One line changes when a member is handed back. -/
theorem exists_book_detach {book : List (α × Fate)} {index : Nat} {member : α}
    (found : (withFate .member book)[index]? = some member) :
    ∃ later : List (α × Fate), later.map Prod.fst = book.map Prod.fst ∧
      withFate .member later = (withFate .member book).eraseIdx index ∧
      withFate .released later = withFate .released book ∧
      (withFate .detached later).Perm (withFate .detached book ++ [member]) := by
  obtain ⟨before, after, split, length⟩ := exists_line found
  subst split
  refine ⟨before ++ (member, .detached) :: after, ?_, ?_, ?_, ?_⟩
  · rw [List.map_append, List.map_append]
    rfl
  · rw [withFate_append, withFate_append, withFate_cons, withFate_cons, ← length,
      List.eraseIdx_append_of_length_le (Nat.le_refl _), Nat.sub_self]
    rfl
  · rw [withFate_append, withFate_append]
    rfl
  · rw [withFate_append, withFate_append, List.append_assoc]
    exact (List.perm_append_singleton member (withFate .detached after)).symm.append_left _

/-- While nothing was released, a close turns every line of a member into one of a release. -/
theorem exists_book_close {book : List (α × Fate)} (unreleased : withFate .released book = []) :
    ∃ later : List (α × Fate), later.map Prod.fst = book.map Prod.fst ∧
      withFate .member later = [] ∧ withFate .released later = withFate .member book ∧
      withFate .detached later = withFate .detached book := by
  induction book with
  | nil => exact ⟨[], rfl, rfl, rfl, rfl⟩
  | cons line rest ih =>
    obtain ⟨first, fate⟩ := line
    cases fate with
    | member =>
      obtain ⟨later, arrived, members, released, detached⟩ := ih unreleased
      exact ⟨(first, .released) :: later, congrArg (first :: ·) arrived, members,
        congrArg (first :: ·) released, detached⟩
    | detached =>
      obtain ⟨later, arrived, members, released, detached⟩ := ih unreleased
      exact ⟨(first, .detached) :: later, congrArg (first :: ·) arrived, members, released,
        congrArg (first :: ·) detached⟩
    | released => cases unreleased

/-! ## Single operations -/

theorem detach?_eq_some_iff {collection rest : Collection α} {index : Nat} {member : α} :
    collection.detach? index = some (member, rest) ↔
      collection.members[index]? = some member ∧
        rest = { collection with roster := .active (collection.members.eraseIdx index) } := by
  rw [detach?]
  cases collection.members[index]? with
  | none => simp
  | some found =>
    simp only [Option.some.injEq, Prod.mk.injEq]
    rw [eq_comm (a := rest)]

theorem detach?_isSome_iff {collection : Collection α} {index : Nat} :
    (collection.detach? index).isSome = true ↔ index < collection.size := by
  rw [detach?, size]
  cases found : collection.members[index]? with
  | none =>
    rw [List.getElem?_eq_none_iff] at found
    simpa using found
  | some member =>
    obtain ⟨within, _⟩ := List.getElem?_eq_some_iff.1 found
    simpa using within

theorem add_of_isClosed {collection : Collection α} (closed : collection.isClosed = true)
    (member : α) : collection.add member = (collection, [member]) := by
  obtain ⟨category, locale, roster⟩ := collection
  cases roster with
  | active members => cases closed
  | closed => rfl

theorem add_of_open {collection : Collection α} (unclosed : collection.isClosed = false)
    (member : α) :
    collection.add member =
      ({ collection with roster := .active (collection.members ++ [member]) }, []) := by
  obtain ⟨category, locale, roster⟩ := collection
  cases roster with
  | active members => rfl
  | closed => cases unclosed

/-! ## Runs -/

namespace Ledger

def start (category : Category) (locale : Option Locale) (members : List α) : Ledger α :=
  ⟨.ofMembers category locale members, members, [], []⟩

def after (ledger : Ledger α) : Operation α → Ledger α
  | .add member =>
    let (collection, released) := ledger.collection.add member
    { ledger with
      collection
      arrived := ledger.arrived ++ [member]
      released := ledger.released ++ released }
  | .detach index =>
    match ledger.collection.detach? index with
    | none => ledger
    | some (member, collection) =>
      { ledger with collection, detached := ledger.detached ++ [member] }
  | .close =>
    let (collection, released) := ledger.collection.close
    { ledger with collection, released := ledger.released ++ released }

def run (ledger : Ledger α) (operations : List (Operation α)) : Ledger α :=
  operations.foldl after ledger

theorem run_append (ledger : Ledger α) (operations others : List (Operation α)) :
    ledger.run (operations ++ others) = (ledger.run operations).run others :=
  List.foldl_append

/-- All that an operation can do. An open collection keeps what is added to it and gives up a member,
or at its close all of them; a closed one only releases what is added to it. -/
inductive Follows (ledger : Ledger α) : Operation α → Ledger α → Prop where
  | kept (unclosed : ledger.collection.isClosed = false) (member : α) :
      Follows ledger (.add member)
        { ledger with
          collection :=
            { ledger.collection with roster := .active (ledger.collection.members ++ [member]) }
          arrived := ledger.arrived ++ [member] }
  | releasedAtOnce (closed : ledger.collection.isClosed = true) (member : α) :
      Follows ledger (.add member)
        { ledger with
          arrived := ledger.arrived ++ [member]
          released := ledger.released ++ [member] }
  | handedBack (unclosed : ledger.collection.isClosed = false) {index : Nat} {member : α}
      (found : ledger.collection.members[index]? = some member) :
      Follows ledger (.detach index)
        { ledger with
          collection :=
            { ledger.collection with
              roster := .active (ledger.collection.members.eraseIdx index) }
          detached := ledger.detached ++ [member] }
  | missed {index : Nat} (beyond : ¬ index < ledger.collection.size) :
      Follows ledger (.detach index) ledger
  | closed (unclosed : ledger.collection.isClosed = false) :
      Follows ledger .close
        { ledger with
          collection := ledger.collection.close.1
          released := ledger.released ++ ledger.collection.members }
  | closedBefore (closed : ledger.collection.isClosed = true) : Follows ledger .close ledger

theorem follows_after (ledger : Ledger α) (operation : Operation α) :
    ledger.Follows operation (ledger.after operation) := by
  cases operation with
  | add member =>
    cases closed : ledger.collection.isClosed with
    | true =>
      rw [after, add_of_isClosed closed]
      exact .releasedAtOnce closed member
    | false =>
      rw [after, add_of_open closed]
      simp only [List.append_nil]
      exact .kept closed member
  | detach index =>
    cases outcome : ledger.collection.detach? index with
    | none =>
      rw [after, outcome]
      refine .missed ?_
      rw [← detach?_isSome_iff, outcome]
      exact Bool.false_ne_true
    | some result =>
      obtain ⟨member, collection⟩ := result
      obtain ⟨found, same⟩ := detach?_eq_some_iff.1 outcome
      rw [after, outcome, same]
      cases closed : ledger.collection.isClosed with
      | true =>
        rw [detach?_of_isClosed closed] at outcome
        cases outcome
      | false => exact .handedBack closed found
  | close =>
    cases closed : ledger.collection.isClosed with
    | true =>
      rw [after, close_of_isClosed closed]
      simp only [List.append_nil]
      exact .closedBefore closed
    | false => exact .closed closed

section Follows

variable {ledger later : Ledger α} {operation : Operation α}

theorem Follows.role (follows : ledger.Follows operation later) :
    later.collection.category = ledger.collection.category ∧
      later.collection.locale = ledger.collection.locale := by
  cases follows <;> exact ⟨rfl, rfl⟩

theorem Follows.arrived (follows : ledger.Follows operation later) :
    later.arrived = ledger.arrived ++ addedIn [operation] := by
  cases follows with
  | kept | releasedAtOnce => rfl
  | handedBack | missed | closed | closedBefore => exact (List.append_nil _).symm

/-- Only a close closes. -/
theorem Follows.isClosed_of_open (follows : ledger.Follows operation later)
    (unclosed : ledger.collection.isClosed = false) (other : operation ≠ .close) :
    later.collection.isClosed = false := by
  cases follows with
  | kept | handedBack => rfl
  | releasedAtOnce | missed => exact unclosed
  | closed | closedBefore => exact absurd rfl other

theorem Follows.eq_of_isClosed (follows : ledger.Follows operation later)
    (closed : ledger.collection.isClosed = true) :
    later =
      { ledger with
        arrived := ledger.arrived ++ addedIn [operation]
        released := ledger.released ++ addedIn [operation] } := by
  cases follows with
  | kept unclosed | handedBack unclosed | closed unclosed =>
    exact absurd (closed.symm.trans unclosed) (by decide)
  | releasedAtOnce => rfl
  | missed | closedBefore => simp only [addedIn, List.append_nil]

end Follows

/-- Every arrival has one line in the book, and with its fate it is in the one place where the ledger
has it. As long as the collection is open, nothing was released. -/
structure Accounts (ledger : Ledger α) (book : List (α × Fate)) : Prop where
  arrived : book.map Prod.fst = ledger.arrived
  members : withFate .member book = ledger.collection.members
  released : withFate .released book = ledger.released
  detached : (withFate .detached book).Perm ledger.detached
  unreleased : ledger.collection.isClosed = false → ledger.released = []

theorem accounts_start (category : Category) (locale : Option Locale) (members : List α) :
    (start category locale members).Accounts (members.map fun member => (member, .member)) := by
  have none_of : ∀ fate, fate ≠ Fate.member →
      withFate fate (members.map fun member => (member, Fate.member)) = [] := by
    intro fate different
    rw [withFate, List.filter_eq_nil_iff.2, List.map_nil]
    intro line among
    obtain ⟨member, _, same⟩ := List.mem_map.1 among
    rw [← same]
    simpa using different.symm
  constructor
  · rw [List.map_map]
    exact List.map_id members
  · rw [withFate, List.filter_eq_self.2, List.map_map]
    · exact List.map_id members
    · intro line among
      obtain ⟨member, _, same⟩ := List.mem_map.1 among
      rw [← same]
      rfl
  · exact none_of .released (by decide)
  · rw [none_of .detached (by decide)]
    exact .nil
  · intro _
    rfl

/-- Each operation keeps the accounts. -/
theorem Accounts.of_follows {ledger later : Ledger α} {book : List (α × Fate)}
    (accounts : ledger.Accounts book) {operation : Operation α}
    (follows : ledger.Follows operation later) : ∃ next, later.Accounts next := by
  have arrived : ∀ member fate,
      (book ++ [(member, fate)]).map Prod.fst = ledger.arrived ++ [member] := by
    intro member fate
    rw [List.map_append, accounts.arrived]
    rfl
  cases follows with
  | kept unclosed member =>
    refine ⟨book ++ [(member, .member)], arrived member .member, ?_, ?_, ?_, ?_⟩
    · rw [withFate_append, accounts.members]
      rfl
    · rw [withFate_append, accounts.released]
      exact List.append_nil _
    · rw [withFate_append]
      exact (List.append_nil _).symm ▸ accounts.detached
    · intro _
      exact accounts.unreleased unclosed
  | releasedAtOnce closed member =>
    refine ⟨book ++ [(member, .released)], arrived member .released, ?_, ?_, ?_, ?_⟩
    · rw [withFate_append, accounts.members]
      exact List.append_nil _
    · rw [withFate_append, accounts.released]
      rfl
    · rw [withFate_append]
      exact (List.append_nil _).symm ▸ accounts.detached
    · intro unclosed
      exact absurd (closed.symm.trans unclosed) (by decide)
  | handedBack unclosed found =>
    rw [← accounts.members] at found
    obtain ⟨next, sameArrived, members, released, detached⟩ := exists_book_detach found
    refine ⟨next, sameArrived.trans accounts.arrived, ?_, released.trans accounts.released,
      detached.trans (accounts.detached.append_right _), ?_⟩
    · rw [members, accounts.members]
      rfl
    · intro _
      exact accounts.unreleased unclosed
  | missed => exact ⟨book, accounts⟩
  | closed unclosed =>
    have unreleased := accounts.unreleased unclosed
    obtain ⟨next, sameArrived, members, released, detached⟩ :=
      exists_book_close (accounts.released.trans unreleased)
    refine ⟨next, sameArrived.trans accounts.arrived, members, ?_, detached ▸ accounts.detached, ?_⟩
    · rw [released, accounts.members, unreleased]
      rfl
    · intro unclosed
      cases unclosed
  | closedBefore => exact ⟨book, accounts⟩

theorem exists_accounts_run {ledger : Ledger α} {book : List (α × Fate)}
    (accounts : ledger.Accounts book) (operations : List (Operation α)) :
    ∃ later, (ledger.run operations).Accounts later := by
  induction operations generalizing ledger book with
  | nil => exact ⟨book, accounts⟩
  | cons operation rest ih =>
    obtain ⟨later, kept⟩ := accounts.of_follows (ledger.follows_after operation)
    exact ih kept

theorem role_run (ledger : Ledger α) (operations : List (Operation α)) :
    (ledger.run operations).collection.category = ledger.collection.category ∧
      (ledger.run operations).collection.locale = ledger.collection.locale := by
  induction operations generalizing ledger with
  | nil => exact ⟨rfl, rfl⟩
  | cons operation rest ih =>
    obtain ⟨category, locale⟩ := (ledger.follows_after operation).role
    obtain ⟨laterCategory, laterLocale⟩ := ih (ledger.after operation)
    exact ⟨laterCategory.trans category, laterLocale.trans locale⟩

theorem arrived_run (ledger : Ledger α) (operations : List (Operation α)) :
    (ledger.run operations).arrived = ledger.arrived ++ addedIn operations := by
  induction operations generalizing ledger with
  | nil => exact (List.append_nil _).symm
  | cons operation rest ih =>
    change ((ledger.after operation).run rest).arrived = _
    rw [ih, (ledger.follows_after operation).arrived, List.append_assoc, ← addedIn_cons]

theorem isClosed_run_of_open {ledger : Ledger α} (unclosed : ledger.collection.isClosed = false)
    {operations : List (Operation α)} (never : .close ∉ operations) :
    (ledger.run operations).collection.isClosed = false := by
  induction operations generalizing ledger with
  | nil => exact unclosed
  | cons operation rest ih =>
    rw [List.mem_cons, not_or] at never
    obtain ⟨other, later⟩ := never
    exact ih ((ledger.follows_after operation).isClosed_of_open unclosed (Ne.symm other)) later

/-- Once it is closed a collection does nothing but release what is added to it. -/
theorem run_of_isClosed {ledger : Ledger α} (closed : ledger.collection.isClosed = true)
    (operations : List (Operation α)) :
    ledger.run operations =
      { ledger with
        arrived := ledger.arrived ++ addedIn operations
        released := ledger.released ++ addedIn operations } := by
  induction operations generalizing ledger with
  | nil => simp only [run, List.foldl_nil, addedIn, List.append_nil]
  | cons operation rest ih =>
    change (ledger.after operation).run rest = _
    rw [(ledger.follows_after operation).eq_of_isClosed closed]
    refine (ih ?_).trans ?_
    · exact closed
    · rw [addedIn_cons operation rest, ← List.append_assoc, ← List.append_assoc]

/-- What is true of a ledger at every moment, where `handedIn` is all that was handed in so far. -/
structure Sound (ledger : Ledger α) (category : Category) (locale : Option Locale)
    (handedIn : List α) : Prop where
  category : ledger.collection.category = category
  locale : ledger.collection.locale = locale
  accounted : ∃ book, ledger.Accounts book ∧ book.map Prod.fst = handedIn
  handsBack : ∀ index, (ledger.collection.detach? index).isSome = true ↔
    index < ledger.collection.size
  keepsOrder : ∀ index member rest, ledger.collection.detach? index = some (member, rest) →
    ledger.collection.members[index]? = some member ∧
      rest.members = ledger.collection.members.eraseIdx index
  dropped : (ledger.detached ++ (ledger.released ++ ledger.collection.drop)).Perm handedIn

/-- A ledger some time after the collection was closed, compared with the one just before that. -/
structure Settled (opened ledger : Ledger α) (later : List α) : Prop where
  closed : ledger.collection.isClosed = true
  members : ledger.collection.members = []
  detached : ledger.detached = opened.detached
  released : ledger.released = opened.released ++ opened.collection.members ++ later
  handsBack : ∀ index, ledger.collection.detach? index = none
  dropped : ledger.collection.drop = []

theorem sound_run (category : Category) (locale : Option Locale) (members : List α)
    (operations : List (Operation α)) :
    ((start category locale members).run operations).Sound category locale
      (members ++ addedIn operations) := by
  obtain ⟨sameCategory, sameLocale⟩ := (start category locale members).role_run operations
  obtain ⟨book, accounts⟩ :=
    exists_accounts_run (accounts_start category locale members) operations
  have arrived : book.map Prod.fst = members ++ addedIn operations :=
    accounts.arrived.trans (arrived_run _ operations)
  refine ⟨sameCategory, sameLocale, ⟨book, accounts, arrived⟩, ?_, ?_, ?_⟩
  · intro index
    exact detach?_isSome_iff
  · intro index member rest handed
    obtain ⟨found, same⟩ := detach?_eq_some_iff.1 handed
    rw [same]
    exact ⟨found, rfl⟩
  · have shared := withFate_perm book
    rw [accounts.released, accounts.members, arrived] at shared
    exact (accounts.detached.symm.append_right _).trans shared

theorem settled_run {ledger : Ledger α} (operations : List (Operation α)) :
    ledger.Settled (ledger.run (.close :: operations)) (addedIn operations) := by
  have closed : (ledger.after .close).collection.isClosed = true := rfl
  have ran : ledger.run (.close :: operations) = (ledger.after .close).run operations := rfl
  rw [ran, run_of_isClosed closed]
  exact ⟨rfl, rfl, rfl, rfl, fun _ => rfl, rfl⟩

/-- Every run keeps its ledger. Until the first close nothing is released and only what is handed back
leaves the collection; a close releases the members in order, and from then on there are none. -/
theorem run_keeps_ledger (category : Category) (locale : Option Locale) (members : List α)
    (operations : List (Operation α)) :
    ((start category locale members).run operations).Sound category locale
      (members ++ addedIn operations) ∧
    (.close ∉ operations →
      ((start category locale members).run operations).collection.isClosed = false ∧
      ((start category locale members).run operations).released = []) ∧
    ∀ before after, operations = before ++ .close :: after →
      ((start category locale members).run before).Settled
        ((start category locale members).run operations) (addedIn after) := by
  refine ⟨sound_run category locale members operations, ?_, ?_⟩
  · intro never
    have unclosed : ((start category locale members).run operations).collection.isClosed = false :=
      isClosed_run_of_open rfl never
    obtain ⟨book, accounts⟩ :=
      exists_accounts_run (accounts_start category locale members) operations
    exact ⟨unclosed, accounts.unreleased unclosed⟩
  · intro before after split
    rw [split, run_append]
    exact settled_run after

theorem run_keeps_ledger_of_late_arrival :
    Operation.close ∉ [Operation.detach 0, .add 30] ∧
      ((start .main none [10, 20]).run [.detach 0, .add 30]).released = [] ∧
      ((start .main none [10, 20]).run [.detach 0, .add 30]).Settled
        ((start .main none [10, 20]).run [.detach 0, .add 30, .close, .add 40, .detach 0]) [40] ∧
      ((start .main none [10, 20]).run
        [.detach 0, .add 30, .close, .add 40, .detach 0]).released = [20, 30, 40] := by
  have never : Operation.close ∉ [Operation.detach 0, .add 30] := by simp
  obtain ⟨_, untilClosed, _⟩ := run_keeps_ledger .main none [10, 20] [.detach 0, .add 30]
  obtain ⟨_, _, onceClosed⟩ := run_keeps_ledger .main none [10, 20]
    [.detach 0, .add 30, .close, .add 40, .detach 0]
  exact ⟨never, (untilClosed never).2,
    onceClosed [.detach 0, .add 30] [.add 40, .detach 0] rfl, rfl⟩

end Ledger

end Lexicon.Collection
