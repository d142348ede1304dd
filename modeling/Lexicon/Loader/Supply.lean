import Lexicon.Catalog
import Lexicon.Dictionary
import Lexicon.Storage.Quarantine

/-!
# Supplies

What a loader needs from the world around it: where the dictionaries of a locale are, and how one is
opened, given back and retired. A supply over a catalog works on a file store; other supplies may
answer as they like, keep a state of their own and fail.
-/

set_option autoImplicit false

namespace Lexicon

open Storage

/-- A failure that nobody in the loader expects. It ends the load. -/
inductive Fault where
  | uncaught
  deriving DecidableEq, Repr

/-- A computation over a world `σ` that may end in a fault. What it did to the world before the fault
stays done. -/
abbrev Loading (σ : Type) := ExceptT Fault (StateM σ)

inductive Opening where
  | valid (dictionary : Dictionary)
  /-- The dictionary could be read, but its region is defective. -/
  | invalid (dictionary : Dictionary) (defect : Region.Defect)
  | unavailable (cause : OpenError)

def Opening.ofExtent (store : FileStore) (extent : Extent) (locale : Option Locale)
    (category : Category) : Opening :=
  match Volume.ofExtent store extent locale category with
  | .error cause => .unavailable cause
  | .ok volume =>
    match volume.defect? with
    | none => .valid (.volume volume)
    | some defect => .invalid (.volume volume) defect

structure Supply (σ : Type) where
  customOverride : Locale → Loading σ (Option Extent)
  assetSources : Locale → Loading σ (List Extent)
  embeddedFallback : Option Locale → Loading σ (Option Extent)
  openExtent : Extent → Option Locale → Category → Loading σ Opening
  /-- Takes back a dictionary that is not kept. -/
  release : Dictionary → Loading σ Unit
  quarantine : Extent → Loading σ Quarantine

namespace Supply

variable {σ : Type}

/-- The user's own dictionary if there is one, otherwise the packaged ones. -/
def resolve (supply : Supply σ) (locale : Locale) : Loading σ Resolution := do
  match ← supply.customOverride locale with
  | some extent => return .custom extent
  | none => return .assets (← supply.assetSources locale)

/-- An answer that is read off the world. -/
def reading {α : Type} (answer : σ → α) : Loading σ α := do
  return answer (← get)

/-- The supply of a catalog. Only quarantine changes the file store. -/
def ofCatalog (catalog : Catalog) : Supply FileStore where
  customOverride locale := reading fun store => catalog.customOverride? store locale
  assetSources locale := reading fun store => catalog.assetSources store locale
  embeddedFallback locale := reading fun store => catalog.embeddedFallback? store locale
  openExtent extent locale category :=
    reading fun store => Opening.ofExtent store extent locale category
  release _ := return
  quarantine extent := modifyGet extent.quarantine

end Supply

end Lexicon
