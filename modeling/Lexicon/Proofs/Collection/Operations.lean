import Lexicon.Proofs.Collection.Ledger
import Mathlib.Data.List.InsertIdx

/-!
# Collections after an operation

What an operation leaves of a collection, whatever becomes of the members that it releases. A collection
is closed afterwards if it was closed before or is closed now, and a member of it was a member before or
was just added. Operations look at no member, so they go along with any change made to all members.
-/

set_option autoImplicit false

namespace Lexicon

namespace Collection

variable {α β : Type}

def Operation.closes : Operation α → Bool
  | .add _ | .detach _ => false
  | .close => true

section Follows

variable {ledger later : Ledger α} {operation : Operation α}

theorem Ledger.Follows.isClosed_eq (follows : ledger.Follows operation later) :
    later.collection.isClosed = (ledger.collection.isClosed || operation.closes) := by
  cases follows with
  | kept unclosed | handedBack unclosed | closed unclosed =>
    rw [unclosed]
    rfl
  | releasedAtOnce closed | closedBefore closed =>
    rw [closed, Bool.true_or]
  | missed => exact (Bool.or_false _).symm

theorem Ledger.Follows.mem_members (follows : ledger.Follows operation later) {member : α}
    (among : member ∈ later.collection.members) :
    member ∈ ledger.collection.members ∨ operation = .add member := by
  cases follows with
  | kept _ added =>
    rcases List.mem_append.1 among with held | new
    · exact .inl held
    · exact .inr (congrArg Operation.add (List.mem_singleton.1 new).symm)
  | handedBack => exact .inl (List.mem_of_mem_eraseIdx among)
  | releasedAtOnce | missed | closedBefore => exact .inl among
  | closed => cases among

end Follows

/-- What an operation leaves of a collection. -/
def after (collection : Collection α) (operation : Operation α) : Collection α :=
  ((Ledger.mk collection [] [] []).after operation).collection

@[simp] theorem isClosed_after (collection : Collection α) (operation : Operation α) :
    (collection.after operation).isClosed = (collection.isClosed || operation.closes) :=
  (Ledger.follows_after _ operation).isClosed_eq

theorem mem_members_after {collection : Collection α} {operation : Operation α} {member : α}
    (among : member ∈ (collection.after operation).members) :
    member ∈ collection.members ∨ operation = .add member :=
  (Ledger.follows_after _ operation).mem_members among

/-- Another member in the place of one. -/
def modify (collection : Collection α) (index : Nat) (change : α → α) : Collection α :=
  match collection.roster with
  | .active members => { collection with roster := .active (members.modify index change) }
  | .closed => collection

@[simp] theorem isClosed_modify (collection : Collection α) (index : Nat) (change : α → α) :
    (collection.modify index change).isClosed = collection.isClosed := by
  obtain ⟨category, locale, roster⟩ := collection
  cases roster <;> rfl

@[simp] theorem members_modify (collection : Collection α) (index : Nat) (change : α → α) :
    (collection.modify index change).members = collection.members.modify index change := by
  obtain ⟨category, locale, roster⟩ := collection
  cases roster with
  | active members => rfl
  | closed => exact (List.modify_nil _ _).symm

def map (change : α → β) (collection : Collection α) : Collection β where
  category := collection.category
  locale := collection.locale
  roster :=
    match collection.roster with
    | .active members => .active (members.map change)
    | .closed => .closed

def Operation.map (change : α → β) : Operation α → Operation β
  | .add member => .add (change member)
  | .detach index => .detach index
  | .close => .close

@[simp] theorem members_map (change : α → β) (collection : Collection α) :
    (collection.map change).members = collection.members.map change := by
  obtain ⟨category, locale, roster⟩ := collection
  cases roster <;> rfl

theorem map_after (change : α → β) (collection : Collection α) (operation : Operation α) :
    (collection.after operation).map change =
      (collection.map change).after (operation.map change) := by
  obtain ⟨category, locale, roster⟩ := collection
  cases roster with
  | closed => cases operation <;> rfl
  | active members =>
    cases operation with
    | add member =>
      simp [after, Ledger.after, Operation.map, map, add]
    | detach index =>
      simp only [after, Ledger.after, Operation.map, map, detach?, Collection.members,
        List.getElem?_map]
      cases members[index]? with
      | none => rfl
      | some member => simp [List.eraseIdx_map]
    | close => rfl

end Collection

end Lexicon
