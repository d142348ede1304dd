import Lexicon.Loader.Supply

/-!
# Loaders

A loader builds the main dictionary of a locale. The user's own dictionary comes first and, once it
can be opened, stands alone, sound or not. Otherwise all sound packaged dictionaries are taken, and
corrupt ones are retired. The fallback in the package serves only where no packaged dictionary was
taken.

Every load ends in a collection, possibly empty: trouble with storage or with a region only makes it
smaller.
-/

set_option autoImplicit false

namespace Lexicon

open Storage

/-- Builds main dictionaries. A disabled loader builds empty ones and asks its supply for nothing. -/
structure Loader (σ : Type) where
  supply : Supply σ
  enabled : Bool := true

namespace Loader

variable {σ : Type}

/-- The loader that settings describe. The package is looked at once, here. -/
def ofSettings (store : FileStore) (settings : DictionarySettings) : Loader FileStore where
  supply := .ofCatalog (.ofSettings store settings)
  enabled := settings.enabled

/-- Opens a source and keeps the dictionary if its kind admits it. Only a user's own dictionary is
kept when it is defective; a defective packaged file is retired as well. -/
def accept (loader : Loader σ) (source : Source) (locale : Option Locale) :
    Loading σ (Option Dictionary) := do
  match ← loader.supply.openExtent source.extent locale .main with
  | .valid dictionary => return some dictionary
  | .unavailable _ => return none
  | .invalid dictionary _ =>
    match source.kind with
    | .custom => return some dictionary
    | .asset =>
      loader.supply.release dictionary
      let _ ← loader.supply.quarantine source.extent
      return none
    | .embedded =>
      loader.supply.release dictionary
      return none

def acceptAssets (loader : Loader σ) (locale : Locale) :
    List Extent → Loading σ (List Dictionary)
  | [] => return []
  | extent :: rest => do
    let first ← loader.accept ⟨.asset, extent⟩ (some locale)
    let later ← loader.acceptAssets locale rest
    return first.toList ++ later

/-- The fallback for a locale, if it is sound. -/
def embeddedMember (loader : Loader σ) (locale : Locale) : Loading σ (Option Dictionary) := do
  match ← loader.supply.embeddedFallback (some locale) with
  | none => return none
  | some extent => loader.accept ⟨.embedded, extent⟩ (some locale)

/-- The fallback for no locale. It is kept even if it is defective. -/
def neutralMember (loader : Loader σ) : Loading σ (Option Dictionary) := do
  match ← loader.supply.embeddedFallback none with
  | none => return none
  | some extent =>
    match ← loader.supply.openExtent extent none .main with
    | .valid dictionary => return some dictionary
    | .invalid dictionary _ => return some dictionary
    | .unavailable _ => return none

def fromAssets (loader : Loader σ) (locale : Locale) (extents : List Extent) :
    Loading σ (Collection Dictionary) := do
  let members ← loader.acceptAssets locale extents
  if members.isEmpty then
    return .ofMembers .main (some locale) (← loader.embeddedMember locale).toList
  else
    return .ofMembers .main (some locale) members

/-- Builds the main dictionary of a locale, or the locale-neutral one. -/
def create (loader : Loader σ) (locale : Option Locale) : Loading σ (Collection Dictionary) := do
  if loader.enabled then
    match locale with
    | none => return .ofMembers .main none (← loader.neutralMember).toList
    | some locale =>
      match ← loader.supply.resolve locale with
      | .assets extents => loader.fromAssets locale extents
      | .custom extent =>
        match ← loader.accept ⟨.custom, extent⟩ (some locale) with
        | some dictionary => return .ofMembers .main (some locale) [dictionary]
        | none => loader.fromAssets locale (← loader.supply.assetSources locale)
  else
    return .empty .main locale

/-- Builds a main dictionary and never fails: after a fault the dictionary is empty, with the locale
that was asked for. -/
def load (loader : Loader σ) (locale : Option Locale) : StateM σ (Collection Dictionary) :=
  fun world =>
    match (loader.create locale).run.run world with
    | (.ok collection, after) => (collection, after)
    | (.error _, after) => (.empty .main locale, after)

end Loader

end Lexicon
