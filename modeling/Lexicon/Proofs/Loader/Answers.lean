import Lexicon.Proofs.Loader.Yields

/-!
# What every load ends in

Whatever a supply answers, and even if it fails, a load ends in an open main dictionary with the
locale that was asked for. After a fault it is an empty one.
-/

set_option autoImplicit false

namespace Lexicon

namespace Loading

variable {σ α β : Type}

/-- Every answer that a computation can yield has a property. -/
def Answers (computation : Loading σ α) (holds : α → Prop) : Prop :=
  ∀ before answer after, computation.Yields before answer after → holds answer

theorem answers_pure {holds : α → Prop} {answer : α} (held : holds answer) :
    Answers (Pure.pure answer : Loading σ α) holds := by
  intro before other after ran
  obtain ⟨same, _⟩ := ran.unique (.pure answer before)
  rw [same]
  exact held

theorem answers_bind (first : Loading σ α) {next : α → Loading σ β} {holds : β → Prop}
    (held : ∀ answer, Answers (next answer) holds) : Answers (first >>= next) holds := by
  intro before result after ran
  obtain ⟨answer, middle, _, continued⟩ := ran.of_bind
  exact held answer middle result after continued

end Loading

/-- An open main dictionary for a locale, or for none. -/
structure Collection.IsMainFor (locale : Option Locale) (collection : Collection Dictionary) :
    Prop where
  category : collection.category = .main
  locale : collection.locale = locale
  unclosed : collection.isClosed = false

theorem Collection.isMainFor_ofMembers (locale : Option Locale) (members : List Dictionary) :
    (Collection.ofMembers .main locale members).IsMainFor locale :=
  ⟨rfl, rfl, rfl⟩

namespace Loader

open Loading Collection

variable {σ : Type}

theorem answers_fromAssets (loader : Loader σ) (locale : Locale) (extents : List Storage.Extent) :
    (loader.fromAssets locale extents).Answers (IsMainFor (some locale)) := by
  apply answers_bind
  intro members
  by_cases none_taken : members.isEmpty = true
  · rw [if_pos none_taken]
    apply answers_bind
    intro fallback
    exact answers_pure (isMainFor_ofMembers _ _)
  · rw [if_neg none_taken]
    exact answers_pure (isMainFor_ofMembers _ _)

theorem answers_create (loader : Loader σ) (locale : Option Locale) :
    (loader.create locale).Answers (IsMainFor locale) := by
  cases on : loader.enabled with
  | false =>
    rw [create.eq_def, on]
    exact answers_pure (isMainFor_ofMembers _ _)
  | true =>
    cases locale with
    | none =>
      rw [create, on]
      apply answers_bind
      intro member
      exact answers_pure (isMainFor_ofMembers _ _)
    | some locale =>
      rw [create, on]
      apply answers_bind
      intro resolution
      cases resolution with
      | assets extents => exact answers_fromAssets loader locale extents
      | custom extent =>
        apply answers_bind
        intro kept
        cases kept with
        | some dictionary => exact answers_pure (isMainFor_ofMembers _ _)
        | none =>
          apply answers_bind
          intro extents
          exact answers_fromAssets loader locale extents

theorem load_of_yields {loader : Loader σ} {locale : Option Locale} {before after : σ}
    {collection : Collection Dictionary}
    (ran : (loader.create locale).Yields before collection after) :
    (loader.load locale).run before = (collection, after) := by
  rw [StateT.run, load, ran]

theorem load_of_fault {loader : Loader σ} {locale : Option Locale} {before after : σ}
    {fault : Fault} (failed : (loader.create locale).run.run before = (.error fault, after)) :
    (loader.load locale).run before = (.empty .main locale, after) := by
  rw [StateT.run, load, failed]

end Loader

end Lexicon
