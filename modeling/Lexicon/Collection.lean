import Lexicon.Locale
import Lexicon.Search

/-!
# Collections

Members kept together in order of arrival. A collection owns its members: it hands one back when it
is detached, and releases those it still has when it is closed. Operations that release members give
them with their result, so what is released is always known and nothing is released silently.

A closed collection stays closed, has no members, and releases whatever is added to it.
-/

set_option autoImplicit false

namespace Lexicon

/-- The members of a collection while it is open. Once it is closed there are none. -/
inductive Roster (α : Type) where
  | active (members : List α)
  | closed

/-- Members of one kind under one role and locale. -/
structure Collection (α : Type) where
  category : Category
  locale : Option Locale
  roster : Roster α

namespace Collection

variable {α : Type}

def ofMembers (category : Category) (locale : Option Locale) (members : List α) : Collection α :=
  ⟨category, locale, .active members⟩

def empty (category : Category) (locale : Option Locale) : Collection α :=
  .ofMembers category locale []

def members (collection : Collection α) : List α :=
  match collection.roster with
  | .active members => members
  | .closed => []

def isClosed (collection : Collection α) : Bool :=
  match collection.roster with
  | .active _ => false
  | .closed => true

def size (collection : Collection α) : Nat :=
  collection.members.length

def isEmpty (collection : Collection α) : Bool :=
  collection.members.isEmpty

/-- Appends a member. A closed collection keeps nothing and releases the member at once. -/
def add (collection : Collection α) (member : α) : Collection α × List α :=
  match collection.roster with
  | .active members => ({ collection with roster := .active (members ++ [member]) }, [])
  | .closed => (collection, [member])

/-- Hands back the member at a place. The others close the gap. -/
def detach? (collection : Collection α) (index : Nat) : Option (α × Collection α) :=
  match collection.members[index]? with
  | none => none
  | some member =>
    some (member, { collection with roster := .active (collection.members.eraseIdx index) })

/-- Closes the collection and releases its members in their order. -/
def close (collection : Collection α) : Collection α × List α :=
  ({ collection with roster := .closed }, collection.members)

/-- Gives the collection up, which closes it: what is released then. -/
def drop (collection : Collection α) : List α :=
  collection.close.2

@[simp] theorem members_ofMembers (category : Category) (locale : Option Locale)
    (members : List α) : (ofMembers category locale members).members = members :=
  rfl

@[simp] theorem members_close (collection : Collection α) : collection.close.1.members = [] :=
  rfl

@[simp] theorem isClosed_close (collection : Collection α) : collection.close.1.isClosed = true :=
  rfl

theorem members_of_isClosed {collection : Collection α} (closed : collection.isClosed = true) :
    collection.members = [] := by
  unfold isClosed at closed
  unfold members
  split <;> simp_all

/-- Closing a second time releases nothing. -/
theorem close_of_isClosed {collection : Collection α} (closed : collection.isClosed = true) :
    collection.close = (collection, []) := by
  obtain ⟨category, locale, roster⟩ := collection
  cases roster with
  | active members => cases closed
  | closed => rfl

theorem detach?_of_isClosed {collection : Collection α} (closed : collection.isClosed = true)
    (index : Nat) : collection.detach? index = none := by
  simp [detach?, members_of_isClosed closed]

end Collection

end Lexicon
