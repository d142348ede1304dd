import Lexicon.Loader.Basic

/-!
# Sessions

A session holds the main dictionary of the locale in use, between its start and its end. Switching
loads the new dictionary first and then closes the one before it, so at most one collection is open.
Whatever a step closes is given with its result.
-/

set_option autoImplicit false

namespace Lexicon

/-- A loader with the collection now in use, if one is loaded. -/
structure Session (σ : Type) where
  loader : Loader σ
  current : Option (Collection Dictionary)

namespace Session

variable {σ : Type}

def start (loader : Loader σ) : Session σ :=
  ⟨loader, none⟩

/-- The outcome of a step: the session after it and the collection it closed, if it closed one. -/
structure Step (σ : Type) where
  session : Session σ
  closed : Option (Collection Dictionary)

/-- Loads the dictionary of a locale and puts it in the place of the current one, which is closed.
The number is that of the members loaded. -/
def switchTo (session : Session σ) (locale : Option Locale) : StateM σ (Nat × Step σ) := do
  let loaded ← session.loader.load locale
  return (loaded.size,
    { session := { session with current := some loaded }
      closed := session.current.map fun previous => previous.close.1 })

/-- What is made of the current collection, if one is loaded. It stays as it is. -/
def withCurrent {β : Type} (session : Session σ) (use : Collection Dictionary → β) : Option β :=
  session.current.map use

def tearDown (session : Session σ) : Step σ where
  session := { session with current := none }
  closed := session.current.map fun previous => previous.close.1

end Session

end Lexicon
