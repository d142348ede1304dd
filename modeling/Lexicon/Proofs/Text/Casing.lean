import Lexicon.Text.Letter
import Mathlib.Data.List.Forall2

/-!
# Texts that differ in case

Two texts are one name when they have the same characters up to the case of ASCII letters. Lowering
makes exactly the texts of one name equal, and whether a character is a letter or a digit does not
depend on its case.
-/

set_option autoImplicit false

namespace Lexicon.Text

/-- The same character, or the capital and the small letter of one ASCII letter. -/
def SameLetter (c d : Char) : Prop :=
  c = d ∨ (c.isUpper = true ∧ d.toNat = c.toNat + 32) ∨
    (d.isUpper = true ∧ c.toNat = d.toNat + 32)

/-- Two texts differ at most in the case of ASCII letters. -/
def SameName (left right : String) : Prop :=
  List.Forall₂ SameLetter left.toList right.toList

/-! ## Characters -/

theorem SameLetter.symm {c d : Char} (same : SameLetter c d) : SameLetter d c := by
  rcases same with rfl | capital | small
  · exact .inl rfl
  · exact .inr (.inr capital)
  · exact .inr (.inl small)

theorem toLower_eq_toLower_iff {c d : Char} : c.toLower = d.toLower ↔ SameLetter c d := by
  rw [← Char.toNat_inj, toNat_toLower, toNat_toLower, SameLetter, ← Char.toNat_inj]
  simp only [isUpper_iff]
  split <;> split <;> omega

theorem toUpper_eq_toUpper_iff {c d : Char} : c.toUpper = d.toUpper ↔ SameLetter c d := by
  rw [← Char.toNat_inj, toNat_toUpper, toNat_toUpper, SameLetter, ← Char.toNat_inj]
  simp only [isUpper_iff, isLower_iff]
  split <;> split <;> omega

theorem sameLetter_toLower (c : Char) : SameLetter c.toLower c := by
  have code := toNat_toLower c
  simp only [isUpper_iff] at code
  rw [SameLetter, ← Char.toNat_inj, isUpper_iff, isUpper_iff]
  split at code <;> omega

theorem SameLetter.isAlpha_eq {c d : Char} (same : SameLetter c d) : c.isAlpha = d.isAlpha := by
  rw [Bool.eq_iff_iff, isAlpha_iff, isAlpha_iff]
  simp only [isUpper_iff, isLower_iff]
  rw [SameLetter, ← Char.toNat_inj, isUpper_iff, isUpper_iff] at same
  omega

theorem SameLetter.isDigit_eq {c d : Char} (same : SameLetter c d) : c.isDigit = d.isDigit := by
  rw [Bool.eq_iff_iff, isDigit_iff, isDigit_iff]
  rw [SameLetter, ← Char.toNat_inj, isUpper_iff, isUpper_iff] at same
  omega

theorem SameLetter.isAlphanum_eq {c d : Char} (same : SameLetter c d) :
    c.isAlphanum = d.isAlphanum := by
  rw [Char.isAlphanum, Char.isAlphanum, same.isAlpha_eq, same.isDigit_eq]

/-! ## Texts -/

namespace SameName

theorem refl (text : String) : SameName text text :=
  List.forall₂_same.2 fun _ _ => .inl rfl

theorem symm {left right : String} (same : SameName left right) : SameName right left :=
  (List.Forall₂.imp (fun _ _ => SameLetter.symm) same).flip

theorem append {left right left' right' : String} (first : SameName left left')
    (second : SameName right right') : SameName (left ++ right) (left' ++ right') := by
  rw [SameName, String.toList_append, String.toList_append]
  exact List.rel_append first second

theorem eq_empty_iff {left right : String} (same : SameName left right) :
    left = "" ↔ right = "" := by
  have lengths := List.Forall₂.length_eq same
  rw [← String.toList_eq_nil_iff, ← String.toList_eq_nil_iff, ← List.length_eq_zero_iff, lengths,
    List.length_eq_zero_iff]

/-- A property of characters that does not depend on case carries over. -/
theorem forall_mem {left right : String} (same : SameName left right) {holds : Char → Prop}
    (respects : ∀ c d, SameLetter c d → holds d → holds c) (all : ∀ c ∈ right.toList, holds c) :
    ∀ c ∈ left.toList, holds c := by
  have paired : ∀ {cs ds : List Char}, List.Forall₂ SameLetter cs ds → (∀ d ∈ ds, holds d) →
      ∀ c ∈ cs, holds c := by
    intro cs ds related
    induction related with
    | nil => exact fun _ => List.forall_mem_nil _
    | cons letter _ ih =>
      intro all
      obtain ⟨first, later⟩ := List.forall_mem_cons.1 all
      exact List.forall_mem_cons.2 ⟨respects _ _ letter first, ih later⟩
  exact paired same all

theorem forall_isAlpha {left right : String} (same : SameName left right)
    (letters : ∀ c ∈ right.toList, c.isAlpha = true) : ∀ c ∈ left.toList, c.isAlpha = true :=
  same.forall_mem (fun _ _ letter held => letter.isAlpha_eq.trans held) letters

theorem forall_isAlphanum {left right : String} (same : SameName left right)
    (plain : ∀ c ∈ right.toList, c.isAlphanum = true) : ∀ c ∈ left.toList, c.isAlphanum = true :=
  same.forall_mem (fun _ _ letter held => letter.isAlphanum_eq.trans held) plain

theorem exists_append {text left right : String} (same : SameName text (left ++ right)) :
    ∃ first second, text = first ++ second ∧ SameName first left ∧ SameName second right := by
  rw [SameName, String.toList_append] at same
  have first := List.forall₂_take_append _ _ _ same
  have second := List.forall₂_drop_append _ _ _ same
  refine ⟨String.ofList (text.toList.take left.toList.length),
    String.ofList (text.toList.drop left.toList.length), ?_, ?_, ?_⟩
  · rw [← String.ofList_append, List.take_append_drop, String.ofList_toList]
  · simpa only [SameName, String.toList_ofList] using first
  · simpa only [SameName, String.toList_ofList] using second

/-- A text without letters is the only one of its name. -/
theorem eq_singleton {text : String} {c : Char} (same : SameName text (String.singleton c))
    (other : c.isAlpha = false) : text = String.singleton c := by
  rw [SameName, String.toList_singleton, List.forall₂_cons_right_iff] at same
  obtain ⟨d, rest, letter, nothing, spelled⟩ := same
  rw [List.forall₂_nil_right_iff] at nothing
  have alone : d = c := by
    rw [← Bool.not_eq_true, isAlpha_iff, isUpper_iff, isLower_iff] at other
    rw [SameLetter, isUpper_iff, isUpper_iff] at letter
    rcases letter with same | capital | small
    · exact same
    · omega
    · omega
  rw [← String.toList_inj, spelled, nothing, alone, String.toList_singleton]

end SameName

theorem sameName_lowered (text : String) : SameName (lowered text) text := by
  rw [SameName, toList_lowered, List.forall₂_map_left_iff, List.forall₂_same]
  intro c _
  exact sameLetter_toLower c

theorem lowered_eq_lowered_iff {left right : String} :
    lowered left = lowered right ↔ SameName left right := by
  rw [← String.toList_inj, toList_lowered, toList_lowered, ← List.forall₂_eq_eq_eq,
    List.forall₂_map_left_iff, List.forall₂_map_right_iff, SameName]
  simp only [toLower_eq_toLower_iff]

instance (left right : String) : Decidable (SameName left right) :=
  decidable_of_iff (lowered left = lowered right) lowered_eq_lowered_iff

theorem raised_eq_raised_iff {left right : String} :
    raised left = raised right ↔ SameName left right := by
  rw [← String.toList_inj, toList_raised, toList_raised, ← List.forall₂_eq_eq_eq,
    List.forall₂_map_left_iff, List.forall₂_map_right_iff, SameName]
  simp only [toUpper_eq_toUpper_iff]

end Lexicon.Text
