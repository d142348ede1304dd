import Lexicon.Loader.Basic

/-!
# Journals

A supply whose calls are written down, in the order in which they are made. The journal shows what a
loader asked for and when, whatever the supply answered.

A scripted supply gives fixed answers to the questions where dictionaries are, for any locale, and
opens and retires them in a file store.
-/

set_option autoImplicit false

namespace Lexicon

open Storage

inductive Call where
  | customOverride (locale : Locale)
  | assetSources (locale : Locale)
  | embeddedFallback (locale : Option Locale)
  | openExtent (extent : Extent)
  | release (dictionary : Dictionary)
  | quarantine (extent : Extent)

/-- A world with the calls made in it, in order. -/
structure Journal (σ : Type) where
  world : σ
  calls : List Call

namespace Journal

variable {σ : Type}

def record (call : Call) : Loading (Journal σ) Unit :=
  modify fun journal => { journal with calls := journal.calls ++ [call] }

def inside {α : Type} (computation : Loading σ α) : Loading (Journal σ) α :=
  ExceptT.mk fun journal =>
    let (result, world) := computation.run.run journal.world
    (result, { journal with world })

end Journal

namespace Supply

variable {σ : Type}

/-- The same supply with a journal. A call is written down before it is made. -/
def journaled (supply : Supply σ) : Supply (Journal σ) where
  customOverride locale := do
    Journal.record (.customOverride locale)
    Journal.inside (supply.customOverride locale)
  assetSources locale := do
    Journal.record (.assetSources locale)
    Journal.inside (supply.assetSources locale)
  embeddedFallback locale := do
    Journal.record (.embeddedFallback locale)
    Journal.inside (supply.embeddedFallback locale)
  openExtent extent locale category := do
    Journal.record (.openExtent extent)
    Journal.inside (supply.openExtent extent locale category)
  release dictionary := do
    Journal.record (.release dictionary)
    Journal.inside (supply.release dictionary)
  quarantine extent := do
    Journal.record (.quarantine extent)
    Journal.inside (supply.quarantine extent)

/-- A supply with fixed answers. If it is failing, every question where dictionaries are ends in a
fault. -/
def scripted (custom : Option Extent) (assets : List Extent) (embedded : Option Extent)
    (failing : Bool) : Supply FileStore where
  customOverride _ := if failing then throw .uncaught else return custom
  assetSources _ := if failing then throw .uncaught else return assets
  embeddedFallback _ := if failing then throw .uncaught else return embedded
  openExtent extent locale category :=
    reading fun store => Opening.ofExtent store extent locale category
  release _ := return
  quarantine extent := modifyGet extent.quarantine

end Supply

end Lexicon
