import Lexicon.Loader.Journal

/-!
# Runs of a loader

What a load does follows from what the calls to its supply do. A computation yields an answer if its
run from one world ends in another one with that answer and without a fault. Each step of a loader has
one rule for each way that it can take, and the rules ask nothing of the supply but the runs that the
step makes use of.
-/

set_option autoImplicit false

namespace Lexicon

open Storage

def Opening.dictionary? : Opening → Option Dictionary
  | .valid dictionary => some dictionary
  | .invalid dictionary _ => some dictionary
  | .unavailable _ => none

def Opening.sound? : Opening → Option Dictionary
  | .valid dictionary => some dictionary
  | .invalid _ _ => none
  | .unavailable _ => none

namespace Loading

variable {σ α β : Type}

/-- The run from one world ends in another, with an answer. -/
def Yields (computation : Loading σ α) (before : σ) (answer : α) (after : σ) : Prop :=
  computation.run.run before = (.ok answer, after)

theorem Yields.pure (answer : α) (world : σ) :
    Yields (Pure.pure answer : Loading σ α) world answer world :=
  rfl

theorem run_bind (first : Loading σ α) (next : α → Loading σ β) (before : σ) :
    (first >>= next).run.run before =
      match first.run.run before with
      | (.ok answer, middle) => (next answer).run.run middle
      | (.error fault, middle) => (.error fault, middle) := by
  change StateT.run (ExceptT.run (first >>= next)) before = _
  simp only [ExceptT.run_bind, StateT.run_bind]
  cases first.run.run before with
  | mk result world =>
    cases result <;> rfl

theorem Yields.bind {first : Loading σ α} {next : α → Loading σ β} {before middle after : σ}
    {answer : α} {result : β} (ran : first.Yields before answer middle)
    (continued : (next answer).Yields middle result after) :
    (first >>= next).Yields before result after := by
  rw [Yields, run_bind, ran]
  exact continued

theorem Yields.of_bind {first : Loading σ α} {next : α → Loading σ β} {before after : σ}
    {result : β} (ran : (first >>= next).Yields before result after) :
    ∃ answer middle, first.Yields before answer middle ∧
      (next answer).Yields middle result after := by
  rw [Yields, run_bind] at ran
  cases start : first.run.run before with
  | mk outcome middle =>
    rw [start] at ran
    cases outcome with
    | ok answer => exact ⟨answer, middle, start, ran⟩
    | error fault => cases ran

/-- A run has one end only. -/
theorem Yields.unique {computation : Loading σ α} {before after after' : σ} {answer answer' : α}
    (ran : computation.Yields before answer after)
    (ran' : computation.Yields before answer' after') : answer = answer' ∧ after = after' := by
  have same : ((.ok answer, after) : Except Fault α × σ) = (.ok answer', after') :=
    ran.symm.trans ran'
  cases same
  exact ⟨rfl, rfl⟩

theorem yields_reading (answer : σ → α) (world : σ) :
    Yields (Supply.reading answer) world (answer world) world :=
  rfl

theorem yields_modifyGet (change : σ → α × σ) (world : σ) :
    Yields (modifyGet change : Loading σ α) world (change world).1 (change world).2 :=
  rfl

/-- A call with a journal does what it does without, and is written down. -/
theorem Yields.journaled {computation : Loading σ α} {before after : σ} {answer : α}
    (ran : computation.Yields before answer after) (call : Call) (calls : List Call) :
    Yields (do Journal.record call; Journal.inside computation) ⟨before, calls⟩ answer
      ⟨after, calls ++ [call]⟩ := by
  have inside : (Journal.inside computation).Yields ⟨before, calls ++ [call]⟩ answer
      ⟨after, calls ++ [call]⟩ := by
    unfold Yields Journal.inside
    change ((computation.run.run before).1, Journal.mk (computation.run.run before).2 _) = _
    rw [ran]
  have recorded : (Journal.record call).Yields (⟨before, calls⟩ : Journal σ) ()
      ⟨before, calls ++ [call]⟩ := rfl
  exact recorded.bind inside

end Loading

namespace Loader

open Loading

variable {σ : Type} {loader : Loader σ} {before middle after last : σ}

/-! ## One source -/

section Accept

variable {extent : Extent} {locale : Option Locale} {dictionary : Dictionary}

/-- Of the user's own dictionaries everything is kept that could be opened. -/
theorem accept_custom {opening : Opening}
    (opened : (loader.supply.openExtent extent locale .main).Yields before opening after) :
    (loader.accept ⟨.custom, extent⟩ locale).Yields before opening.dictionary? after := by
  cases opening <;> exact opened.bind (.pure _ _)

theorem accept_of_valid (kind : SourceKind)
    (opened : (loader.supply.openExtent extent locale .main).Yields before (.valid dictionary)
      after) :
    (loader.accept ⟨kind, extent⟩ locale).Yields before (some dictionary) after :=
  opened.bind (.pure _ _)

theorem accept_of_unavailable (kind : SourceKind) {cause : OpenError}
    (opened : (loader.supply.openExtent extent locale .main).Yields before (.unavailable cause)
      after) :
    (loader.accept ⟨kind, extent⟩ locale).Yields before none after :=
  opened.bind (.pure _ _)

variable {defect : Region.Defect}

theorem accept_asset_of_invalid {answer : Quarantine}
    (opened : (loader.supply.openExtent extent locale .main).Yields before
      (.invalid dictionary defect) middle)
    (released : (loader.supply.release dictionary).Yields middle () after)
    (retired : (loader.supply.quarantine extent).Yields after answer last) :
    (loader.accept ⟨.asset, extent⟩ locale).Yields before none last :=
  opened.bind (released.bind (retired.bind (.pure _ _)))

theorem accept_embedded_of_invalid
    (opened : (loader.supply.openExtent extent locale .main).Yields before
      (.invalid dictionary defect) middle)
    (released : (loader.supply.release dictionary).Yields middle () after) :
    (loader.accept ⟨.embedded, extent⟩ locale).Yields before none after :=
  opened.bind (released.bind (.pure _ _))

end Accept

/-! ## The steps of a load -/

section Steps

variable {locale : Locale} {extents : List Extent} {members : List Dictionary}

theorem acceptAssets_nil (world : σ) : (loader.acceptAssets locale []).Yields world [] world :=
  rfl

theorem acceptAssets_cons {extent : Extent} {first : Option Dictionary}
    (head : (loader.accept ⟨.asset, extent⟩ (some locale)).Yields before first middle)
    (later : (loader.acceptAssets locale extents).Yields middle members after) :
    (loader.acceptAssets locale (extent :: extents)).Yields before (first.toList ++ members)
      after :=
  head.bind (later.bind (.pure _ _))

theorem embeddedMember_of_none
    (asked : (loader.supply.embeddedFallback (some locale)).Yields before none after) :
    (loader.embeddedMember locale).Yields before none after :=
  asked.bind (.pure _ _)

theorem embeddedMember_of_some {extent : Extent} {member : Option Dictionary}
    (asked : (loader.supply.embeddedFallback (some locale)).Yields before (some extent) middle)
    (accepted : (loader.accept ⟨.embedded, extent⟩ (some locale)).Yields middle member after) :
    (loader.embeddedMember locale).Yields before member after :=
  asked.bind accepted

theorem neutralMember_of_none
    (asked : (loader.supply.embeddedFallback none).Yields before none after) :
    loader.neutralMember.Yields before none after :=
  asked.bind (.pure _ _)

theorem neutralMember_of_some {extent : Extent} {opening : Opening}
    (asked : (loader.supply.embeddedFallback none).Yields before (some extent) middle)
    (opened : (loader.supply.openExtent extent none .main).Yields middle opening after) :
    loader.neutralMember.Yields before opening.dictionary? after := by
  refine asked.bind ?_
  cases opening <;> exact opened.bind (.pure _ _)

theorem fromAssets_of_ne_nil (some_member : members ≠ [])
    (accepted : (loader.acceptAssets locale extents).Yields before members after) :
    (loader.fromAssets locale extents).Yields before (.ofMembers .main (some locale) members)
      after := by
  refine accepted.bind ?_
  have filled : members.isEmpty = false := List.isEmpty_eq_false_iff.2 some_member
  simp only [filled]
  exact .pure _ _

theorem fromAssets_of_nil {member : Option Dictionary}
    (accepted : (loader.acceptAssets locale extents).Yields before [] middle)
    (fallback : (loader.embeddedMember locale).Yields middle member after) :
    (loader.fromAssets locale extents).Yields before
      (.ofMembers .main (some locale) member.toList) after :=
  accepted.bind (fallback.bind (.pure _ _))

end Steps

/-! ## Whole loads -/

section Create

theorem create_of_disabled (off : loader.enabled = false) (locale : Option Locale) (world : σ) :
    (loader.create locale).Yields world (.empty .main locale) world := by
  rw [create.eq_def, off]
  exact .pure _ _

variable (on : loader.enabled = true) {locale : Locale} {extent : Extent} {extents : List Extent}
  {collection : Collection Dictionary}

include on

theorem create_neutral {member : Option Dictionary}
    (kept : loader.neutralMember.Yields before member after) :
    (loader.create none).Yields before (.ofMembers .main none member.toList) after := by
  rw [create, on]
  exact kept.bind (.pure _ _)

theorem create_of_custom {dictionary : Dictionary}
    (asked : (loader.supply.customOverride locale).Yields before (some extent) middle)
    (kept : (loader.accept ⟨.custom, extent⟩ (some locale)).Yields middle (some dictionary)
      after) :
    (loader.create (some locale)).Yields before (.ofMembers .main (some locale) [dictionary])
      after := by
  have resolved : (loader.supply.resolve locale).Yields before (.custom extent) middle :=
    asked.bind (.pure _ _)
  rw [create, on]
  exact resolved.bind (kept.bind (.pure _ _))

/-- A user's own dictionary that cannot be opened counts as absent. -/
theorem create_of_unavailable_custom
    (asked : (loader.supply.customOverride locale).Yields before (some extent) middle)
    (missed : (loader.accept ⟨.custom, extent⟩ (some locale)).Yields middle none after)
    {listed : σ} (sources : (loader.supply.assetSources locale).Yields after extents listed)
    (served : (loader.fromAssets locale extents).Yields listed collection last) :
    (loader.create (some locale)).Yields before collection last := by
  have resolved : (loader.supply.resolve locale).Yields before (.custom extent) middle :=
    asked.bind (.pure _ _)
  rw [create, on]
  exact resolved.bind (missed.bind (sources.bind served))

theorem create_without_custom
    (asked : (loader.supply.customOverride locale).Yields before none middle)
    (sources : (loader.supply.assetSources locale).Yields middle extents after)
    (served : (loader.fromAssets locale extents).Yields after collection last) :
    (loader.create (some locale)).Yields before collection last := by
  have resolved : (loader.supply.resolve locale).Yields before (.assets extents) after :=
    asked.bind (sources.bind (.pure _ _))
  rw [create, on]
  exact resolved.bind served

end Create

end Loader

end Lexicon
