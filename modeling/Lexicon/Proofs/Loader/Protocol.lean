import Lexicon.Proofs.Loader.Yields
import Lexicon.Proofs.Storage.Removal

/-!
# The protocol of a load

Which calls a load makes, in which order, what it keeps and what it removes, whatever a supply
answers. A script lays down the answers beforehand: where dictionaries are said to be, for each
locale, and what comes of each opening, by its number. Everything a load does can then be read off the
script, and the files that it removes off the store before it.
-/

set_option autoImplicit false

namespace Lexicon

open Storage

/-- What a supply is going to answer. -/
structure Script where
  custom : Locale → Option Extent
  assets : Locale → List Extent
  embedded : Option Locale → Option Extent
  /-- What comes of an opening, given how many there were before. -/
  opening : Nat → Extent → Option Locale → Category → Opening

/-- A store with the number of extents opened so far. -/
structure Replay where
  opened : Nat
  store : FileStore

/-- The supply that keeps to a script and retires extents in a file store. -/
def Supply.replaying (script : Script) : Supply Replay where
  customOverride locale := return script.custom locale
  assetSources locale := return script.assets locale
  embeddedFallback locale := return script.embedded locale
  openExtent extent locale category := modifyGet fun replay =>
    (script.opening replay.opened extent locale category,
      { replay with opened := replay.opened + 1 })
  release _ := return
  quarantine extent := modifyGet fun replay =>
    let (answer, store) := extent.quarantine replay.store
    (answer, { replay with store })

structure Attempt where
  extent : Extent
  opening : Opening

namespace Attempt

def kept? (attempt : Attempt) : SourceKind → Option Dictionary
  | .custom => attempt.opening.dictionary?
  | .asset => attempt.opening.sound?
  | .embedded => attempt.opening.sound?

/-- The calls of an attempt: only what is opened and not kept is released, and only packaged
dictionaries of a locale are retired. -/
def calls (attempt : Attempt) (kind : SourceKind) : List Call :=
  .openExtent attempt.extent ::
    match attempt.opening, kind with
    | .invalid dictionary _, .asset => [.release dictionary, .quarantine attempt.extent]
    | .invalid dictionary _, .embedded => [.release dictionary]
    | _, _ => []

/-- The extent, if a packaged dictionary of a locale turned out to be defective there. -/
def retired? (attempt : Attempt) : SourceKind → Option Extent
  | .asset =>
    match attempt.opening with
    | .invalid _ _ => some attempt.extent
    | _ => none
  | _ => none

end Attempt

namespace Script

variable (script : Script) (locale : Locale)

/-- The attempt on an extent for the locale, given how many attempts there were before. -/
def attempt (before : Nat) (extent : Extent) : Attempt :=
  ⟨extent, script.opening before extent (some locale) .main⟩

def attempts (before : Nat) (extents : List Extent) : List Attempt :=
  (extents.zipIdx before).map fun (extent, number) => script.attempt locale number extent

@[simp] theorem attempts_nil (before : Nat) : script.attempts locale before [] = [] :=
  rfl

@[simp] theorem attempts_cons (before : Nat) (extent : Extent) (rest : List Extent) :
    script.attempts locale before (extent :: rest) =
      script.attempt locale before extent :: script.attempts locale (before + 1) rest :=
  rfl

def customAttempts : List Attempt :=
  script.attempts locale 0 (script.custom locale).toList

def assetAttempts : List Attempt :=
  script.attempts locale (script.customAttempts locale).length (script.assets locale)

def embeddedAttempts : List Attempt :=
  script.attempts locale
    ((script.customAttempts locale).length + (script.assetAttempts locale).length)
    (script.embedded (some locale)).toList

end Script

def Attempt.keptOf (kind : SourceKind) (attempts : List Attempt) : List Dictionary :=
  attempts.flatMap fun attempt => (attempt.kept? kind).toList

def Attempt.retiredOf (kind : SourceKind) (attempts : List Attempt) : List Extent :=
  attempts.flatMap fun attempt => (attempt.retired? kind).toList

def Attempt.callsOf (kind : SourceKind) (attempts : List Attempt) : List Call :=
  attempts.flatMap fun attempt => attempt.calls kind

namespace Script

variable (script : Script) (locale : Locale)

def keptCustom : List Dictionary :=
  Attempt.keptOf .custom (script.customAttempts locale)

def keptAssets : List Dictionary :=
  Attempt.keptOf .asset (script.assetAttempts locale)

def keptEmbedded : List Dictionary :=
  Attempt.keptOf .embedded (script.embeddedAttempts locale)

/-- The members of the main dictionary: the user's own one, or else the packaged ones, or else the
fallback. -/
def members : List Dictionary :=
  if (script.keptCustom locale).isEmpty then
    if (script.keptAssets locale).isEmpty then script.keptEmbedded locale
    else script.keptAssets locale
  else script.keptCustom locale

/-- Every call of a load. Each question is asked only when nothing was kept of the sources before. -/
def calls : List Call :=
  .customOverride locale :: Attempt.callsOf .custom (script.customAttempts locale) ++
    if (script.keptCustom locale).isEmpty then
      .assetSources locale :: Attempt.callsOf .asset (script.assetAttempts locale) ++
        if (script.keptAssets locale).isEmpty then
          .embeddedFallback (some locale) ::
            Attempt.callsOf .embedded (script.embeddedAttempts locale)
        else []
    else []

/-- The extents that are retired: packaged dictionaries only, and only if they were tried. -/
def retired : List Extent :=
  if (script.keptCustom locale).isEmpty then
    Attempt.retiredOf .asset (script.assetAttempts locale)
  else []

end Script

namespace Loader

open Loading

def replaying (script : Script) : Loader (Journal Replay) where
  supply := (Supply.replaying script).journaled

section Replaying

variable (script : Script) (locale : Locale)

/-- One attempt of any kind: what is kept, what is called and what is retired. -/
theorem replaying_accept (kind : SourceKind) (extent : Extent) (number : Nat) (store : FileStore)
    (calls : List Call) :
    ((replaying script).accept ⟨kind, extent⟩ (some locale)).Yields ⟨⟨number, store⟩, calls⟩
      ((script.attempt locale number extent).kept? kind)
      ⟨⟨number + 1,
          quarantineAll store ((script.attempt locale number extent).retired? kind).toList⟩,
        calls ++ (script.attempt locale number extent).calls kind⟩ := by
  rw [Script.attempt]
  have opened : ((replaying script).supply.openExtent extent (some locale) .main).Yields
      ⟨⟨number, store⟩, calls⟩ (script.opening number extent (some locale) .main)
      ⟨⟨number + 1, store⟩, calls ++ [.openExtent extent]⟩ :=
    (yields_modifyGet _ (⟨number, store⟩ : Replay)).journaled _ calls
  have released : ∀ (dictionary : Dictionary) (calls : List Call),
      ((replaying script).supply.release dictionary).Yields ⟨⟨number + 1, store⟩, calls⟩ ()
        ⟨⟨number + 1, store⟩, calls ++ [.release dictionary]⟩ := by
    intro dictionary calls
    exact (Yields.pure () (⟨number + 1, store⟩ : Replay)).journaled _ calls
  cases outcome : script.opening number extent (some locale) .main with
  | valid dictionary =>
    rw [outcome] at opened
    cases kind <;> exact accept_of_valid _ opened
  | unavailable cause =>
    rw [outcome] at opened
    cases kind <;> exact accept_of_unavailable _ opened
  | invalid dictionary defect =>
    rw [outcome] at opened
    cases kind with
    | custom => exact accept_custom opened
    | embedded =>
      have accepted := accept_embedded_of_invalid opened (released dictionary _)
      rw [List.append_assoc] at accepted
      exact accepted
    | asset =>
      have retired : ((replaying script).supply.quarantine extent).Yields
          ⟨⟨number + 1, store⟩, calls ++ [.openExtent extent] ++ [.release dictionary]⟩
          (extent.quarantine store).1
          ⟨⟨number + 1, (extent.quarantine store).2⟩,
            calls ++ [.openExtent extent] ++ [.release dictionary] ++ [.quarantine extent]⟩ :=
        (yields_modifyGet _ (⟨number + 1, store⟩ : Replay)).journaled _ _
      have accepted := accept_asset_of_invalid opened (released dictionary _) retired
      rw [List.append_assoc, List.append_assoc] at accepted
      exact accepted

/-- Extents are tried one after the other, and each exactly once. -/
theorem replaying_acceptAssets (extents : List Extent) (number : Nat) (store : FileStore)
    (calls : List Call) :
    ((replaying script).acceptAssets locale extents).Yields ⟨⟨number, store⟩, calls⟩
      (Attempt.keptOf .asset (script.attempts locale number extents))
      ⟨⟨number + (script.attempts locale number extents).length,
          quarantineAll store
            (Attempt.retiredOf .asset (script.attempts locale number extents))⟩,
        calls ++ Attempt.callsOf .asset (script.attempts locale number extents)⟩ := by
  induction extents generalizing number store calls with
  | nil =>
    rw [Script.attempts_nil, Attempt.callsOf, List.flatMap_nil, List.append_nil]
    exact acceptAssets_nil _
  | cons extent rest ih =>
    have ran := acceptAssets_cons
      (replaying_accept script locale .asset extent number store calls) (ih (number + 1) _ _)
    have counted : number + ((script.attempts locale (number + 1) rest).length + 1) =
        number + 1 + (script.attempts locale (number + 1) rest).length := by omega
    rw [Script.attempts_cons, Attempt.keptOf, Attempt.retiredOf, Attempt.callsOf,
      List.flatMap_cons, List.flatMap_cons, List.flatMap_cons, quarantineAll_append,
      List.length_cons, ← List.append_assoc, counted]
    exact ran

/-- The fallback is asked for once and tried once, if there is one. -/
theorem replaying_embeddedMember (number : Nat) (store : FileStore) (calls : List Call) :
    ∃ (member : Option Dictionary) (opened : Nat),
      member.toList = Attempt.keptOf .embedded
        (script.attempts locale number (script.embedded (some locale)).toList) ∧
      ((replaying script).embeddedMember locale).Yields ⟨⟨number, store⟩, calls⟩ member
        ⟨⟨opened, store⟩, calls ++ .embeddedFallback (some locale) :: Attempt.callsOf .embedded
          (script.attempts locale number (script.embedded (some locale)).toList)⟩ := by
  have asked : ((replaying script).supply.embeddedFallback (some locale)).Yields
      ⟨⟨number, store⟩, calls⟩ (script.embedded (some locale))
      ⟨⟨number, store⟩, calls ++ [.embeddedFallback (some locale)]⟩ :=
    (Yields.pure _ (⟨number, store⟩ : Replay)).journaled _ calls
  cases given : script.embedded (some locale) with
  | none =>
    rw [given] at asked
    exact ⟨none, number, rfl, embeddedMember_of_none asked⟩
  | some extent =>
    rw [given] at asked
    have accepted := replaying_accept script locale .embedded extent number store
      (calls ++ [.embeddedFallback (some locale)])
    have served := embeddedMember_of_some asked accepted
    rw [Option.toList_some, Script.attempts_cons, Script.attempts_nil, Attempt.keptOf,
      Attempt.callsOf, List.flatMap_singleton, List.flatMap_singleton]
    rw [List.append_assoc, List.singleton_append] at served
    exact ⟨_, _, rfl, served⟩

theorem replaying_fromAssets (store : FileStore) (calls : List Call) :
    ∃ opened,
      ((replaying script).fromAssets locale (script.assets locale)).Yields
        ⟨⟨(script.customAttempts locale).length, store⟩, calls⟩
        (.ofMembers .main (some locale)
          (if (script.keptAssets locale).isEmpty then script.keptEmbedded locale
            else script.keptAssets locale))
        ⟨⟨opened, quarantineAll store
            (Attempt.retiredOf .asset (script.assetAttempts locale))⟩,
          calls ++ (Attempt.callsOf .asset (script.assetAttempts locale) ++
            if (script.keptAssets locale).isEmpty then
              .embeddedFallback (some locale) ::
                Attempt.callsOf .embedded (script.embeddedAttempts locale)
            else [])⟩ := by
  have accepted := replaying_acceptAssets script locale (script.assets locale)
    (script.customAttempts locale).length store calls
  change ((replaying script).acceptAssets locale (script.assets locale)).Yields _
    (script.keptAssets locale) ⟨⟨(script.customAttempts locale).length +
      (script.assetAttempts locale).length, _⟩, _⟩ at accepted
  cases kept : script.keptAssets locale with
  | nil =>
    rw [kept] at accepted
    obtain ⟨member, opened, same, served⟩ := replaying_embeddedMember script locale
      ((script.customAttempts locale).length + (script.assetAttempts locale).length) _ _
    refine ⟨opened, ?_⟩
    rw [List.isEmpty_nil, if_pos rfl, if_pos rfl, ← List.append_assoc]
    have ran := fromAssets_of_nil accepted served
    rw [same] at ran
    exact ran
  | cons first rest =>
    rw [kept] at accepted
    refine ⟨(script.customAttempts locale).length + (script.assetAttempts locale).length, ?_⟩
    rw [List.isEmpty_cons, if_neg Bool.false_ne_true, if_neg Bool.false_ne_true,
      List.append_nil]
    exact fromAssets_of_ne_nil (List.cons_ne_nil first rest) accepted

private theorem asks_custom (store : FileStore) :
    ((replaying script).supply.customOverride locale).Yields ⟨⟨0, store⟩, []⟩
      (script.custom locale) ⟨⟨0, store⟩, [.customOverride locale]⟩ :=
  (Yields.pure _ (⟨0, store⟩ : Replay)).journaled _ []

private theorem asks_assets (number : Nat) (store : FileStore) (calls : List Call) :
    ((replaying script).supply.assetSources locale).Yields ⟨⟨number, store⟩, calls⟩
      (script.assets locale) ⟨⟨number, store⟩, calls ++ [.assetSources locale]⟩ :=
  (Yields.pure _ (⟨number, store⟩ : Replay)).journaled _ calls

private theorem keptCustom_of_none (given : script.custom locale = none) :
    script.customAttempts locale = [] ∧ script.keptCustom locale = [] := by
  have tried : script.customAttempts locale = [] := by
    rw [Script.customAttempts, given, Option.toList_none, Script.attempts_nil]
  exact ⟨tried, by rw [Script.keptCustom, tried, Attempt.keptOf, List.flatMap_nil]⟩

private theorem keptCustom_of_some {extent : Extent} (given : script.custom locale = some extent) :
    script.customAttempts locale = [script.attempt locale 0 extent] ∧
      script.keptCustom locale = ((script.attempt locale 0 extent).kept? .custom).toList := by
  have tried : script.customAttempts locale = [script.attempt locale 0 extent] := by
    rw [Script.customAttempts, given, Option.toList_some, Script.attempts_cons,
      Script.attempts_nil]
  exact ⟨tried, by rw [Script.keptCustom, tried, Attempt.keptOf, List.flatMap_singleton]⟩

/-- The user's own dictionary is tried first and ends the load once it is kept. -/
theorem replaying_of_kept (store : FileStore) {dictionary : Dictionary} {rest : List Dictionary}
    (kept : script.keptCustom locale = dictionary :: rest) :
    ((replaying script).create (some locale)).Yields ⟨⟨0, store⟩, []⟩
      (.ofMembers .main (some locale) (dictionary :: rest))
      ⟨⟨1, store⟩,
        .customOverride locale :: Attempt.callsOf .custom (script.customAttempts locale)⟩ := by
  have asked := asks_custom script locale store
  cases given : script.custom locale with
  | none =>
    rw [(keptCustom_of_none script locale given).2] at kept
    cases kept
  | some extent =>
    obtain ⟨tried, same⟩ := keptCustom_of_some script locale given
    have accepted := replaying_accept script locale .custom extent 0 store
      [.customOverride locale]
    rw [given] at asked
    rw [kept] at same
    cases outcome : (script.attempt locale 0 extent).kept? .custom with
    | none =>
      rw [outcome] at same
      cases same
    | some other =>
      rw [outcome] at same accepted
      cases same
      rw [tried, Attempt.callsOf, List.flatMap_singleton]
      exact create_of_custom rfl asked accepted

theorem replaying_of_none_kept (store : FileStore) (none_kept : script.keptCustom locale = []) :
    ∃ opened,
      ((replaying script).create (some locale)).Yields ⟨⟨0, store⟩, []⟩
        (.ofMembers .main (some locale)
          (if (script.keptAssets locale).isEmpty then script.keptEmbedded locale
            else script.keptAssets locale))
        ⟨⟨opened, quarantineAll store
            (Attempt.retiredOf .asset (script.assetAttempts locale))⟩,
          .customOverride locale :: Attempt.callsOf .custom (script.customAttempts locale) ++
            (.assetSources locale :: Attempt.callsOf .asset (script.assetAttempts locale) ++
              if (script.keptAssets locale).isEmpty then
                .embeddedFallback (some locale) ::
                  Attempt.callsOf .embedded (script.embeddedAttempts locale)
              else [])⟩ := by
  have asked := asks_custom script locale store
  cases given : script.custom locale with
  | none =>
    obtain ⟨none_tried, _⟩ := keptCustom_of_none script locale given
    obtain ⟨opened, served⟩ := replaying_fromAssets script locale store
      ([.customOverride locale] ++ [.assetSources locale])
    rw [given] at asked
    rw [none_tried] at served
    rw [none_tried]
    exact ⟨opened, create_without_custom rfl asked (asks_assets script locale 0 store _) served⟩
  | some extent =>
    obtain ⟨tried, same⟩ := keptCustom_of_some script locale given
    have accepted := replaying_accept script locale .custom extent 0 store
      [.customOverride locale]
    rw [given] at asked
    rw [none_kept] at same
    cases outcome : (script.attempt locale 0 extent).kept? .custom with
    | some dictionary =>
      rw [outcome] at same
      cases same
    | none =>
      obtain ⟨opened, served⟩ := replaying_fromAssets script locale store
        ([.customOverride locale] ++ (script.attempt locale 0 extent).calls .custom ++
          [.assetSources locale])
      rw [outcome] at accepted
      rw [tried] at served
      rw [tried, Attempt.callsOf, List.flatMap_singleton]
      have ran := create_of_unavailable_custom rfl asked accepted
        (asks_assets script locale 1 store _) served
      rw [List.append_assoc _ [Call.assetSources locale]] at ran
      exact ⟨opened, ran⟩

/-- A load makes exactly the calls that the script leads to, in order: the user's own dictionary is
asked for first and stands alone once it can be opened; otherwise each packaged one is tried once, in
the order given; the fallback is asked for only if none of them was sound. The files that are gone in
the end are those that packaged dictionaries found defective named in the beginning. -/
theorem create_replaying (script : Script) (locale : Locale) (store : FileStore) :
    ∃ opened gone,
      ((replaying script).create (some locale)).Yields ⟨⟨0, store⟩, []⟩
        (.ofMembers .main (some locale) (script.members locale))
        ⟨⟨opened, store.withoutAll gone⟩, script.calls locale⟩ ∧
      ∀ location, location ∈ gone ↔
        ∃ extent ∈ script.retired locale, extent.wholeFile = true ∧
          ∃ content, store.find extent.path = .ok (location, .file content) := by
  suffices ran : ∃ opened,
      ((replaying script).create (some locale)).Yields ⟨⟨0, store⟩, []⟩
        (.ofMembers .main (some locale) (script.members locale))
        ⟨⟨opened, quarantineAll store (script.retired locale)⟩, script.calls locale⟩ by
    obtain ⟨opened, ran⟩ := ran
    rw [quarantineAll_eq] at ran
    exact ⟨opened, _, ran, fun location => FileStore.mem_retired⟩
  rw [Script.members, Script.retired, Script.calls]
  cases kept : script.keptCustom locale with
  | nil =>
    rw [List.isEmpty_nil, if_pos rfl, if_pos rfl, if_pos rfl]
    exact replaying_of_none_kept script locale store kept
  | cons dictionary rest =>
    rw [List.isEmpty_cons, if_neg Bool.false_ne_true, if_neg Bool.false_ne_true,
      if_neg Bool.false_ne_true, List.append_nil]
    exact ⟨1, replaying_of_kept script locale store kept⟩

end Replaying

end Loader

end Lexicon
