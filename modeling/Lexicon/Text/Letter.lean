/-!
# ASCII letters and digits

Case mapping on the 52 ASCII letters, in code points. The main statements say that lowering a letter
gives a lower-case letter and that raising a letter or digit gives an upper-case letter or a digit;
every other character, accented letters included, is left alone by both maps.
-/

set_option autoImplicit false

namespace Lexicon.Text

theorem isUpper_iff (c : Char) : c.isUpper = true ↔ 65 ≤ c.toNat ∧ c.toNat ≤ 90 := by
  change decide (c.val ≥ 'A'.val ∧ c.val ≤ 'Z'.val) = true ↔ _
  simp [UInt32.le_iff_toNat_le]

theorem isLower_iff (c : Char) : c.isLower = true ↔ 97 ≤ c.toNat ∧ c.toNat ≤ 122 := by
  change (decide (c.val ≥ 'a'.val) && decide (c.val ≤ 'z'.val)) = true ↔ _
  simp [UInt32.le_iff_toNat_le]

theorem isAlpha_iff (c : Char) : c.isAlpha = true ↔ c.isUpper = true ∨ c.isLower = true := by
  change (c.isUpper || c.isLower) = true ↔ _
  simp

theorem isDigit_iff (c : Char) : c.isDigit = true ↔ 48 ≤ c.toNat ∧ c.toNat ≤ 57 := by
  simp [Char.isDigit, UInt32.le_iff_toNat_le]

theorem toNat_toLower (c : Char) :
    c.toLower.toNat = if c.isUpper then c.toNat + 32 else c.toNat := by
  unfold Char.toLower
  split
  · next inside =>
    have upper : c.isUpper = true := decide_eq_true inside
    have bounds := (isUpper_iff c).1 upper
    rw [if_pos upper]
    change (c.val + ('a'.val - 'A'.val)).toNat = c.toNat + 32
    have step : ('a'.val - 'A'.val).toNat = 32 := by decide
    rw [UInt32.toNat_add, step, Char.toNat_val]
    omega
  · next outside =>
    have other : ¬ c.isUpper = true := fun upper => outside (of_decide_eq_true upper)
    rw [if_neg other]

theorem toNat_toUpper (c : Char) :
    c.toUpper.toNat = if c.isLower then c.toNat - 32 else c.toNat := by
  unfold Char.toUpper
  split
  · next inside =>
    have lower : c.isLower = true := by
      change (decide (c.val ≥ 'a'.val) && decide (c.val ≤ 'z'.val)) = true
      simpa using inside
    have bounds := (isLower_iff c).1 lower
    rw [if_pos lower]
    change (c.val + ('A'.val - 'a'.val)).toNat = c.toNat - 32
    have step : ('A'.val - 'a'.val).toNat = 4294967264 := by decide
    rw [UInt32.toNat_add, step, Char.toNat_val]
    omega
  · next outside =>
    have other : ¬ c.isLower = true := by
      change ¬ (decide (c.val ≥ 'a'.val) && decide (c.val ≤ 'z'.val)) = true
      simpa using outside
    rw [if_neg other]

theorem isLower_toLower {c : Char} (letter : c.isAlpha = true) : c.toLower.isLower = true := by
  rw [isAlpha_iff, isUpper_iff, isLower_iff] at letter
  rw [isLower_iff, toNat_toLower]
  simp only [isUpper_iff]
  split <;> omega

/-- A character that a region code may hold: an ASCII capital or digit. -/
def isCode (c : Char) : Bool :=
  c.isUpper || c.isDigit

theorem isCode_toUpper {c : Char} (plain : c.isAlphanum = true) : isCode c.toUpper = true := by
  rw [Char.isAlphanum, Bool.or_eq_true, isAlpha_iff, isUpper_iff, isLower_iff,
    isDigit_iff] at plain
  rw [isCode, Bool.or_eq_true, isUpper_iff, isDigit_iff, toNat_toUpper]
  simp only [isLower_iff]
  split <;> omega

/-- Two texts are the same name up to the case of ASCII letters when this makes them equal. -/
def lowered (text : String) : String :=
  String.ofList (text.toList.map Char.toLower)

def raised (text : String) : String :=
  String.ofList (text.toList.map Char.toUpper)

@[simp] theorem toList_lowered (text : String) :
    (lowered text).toList = text.toList.map Char.toLower := by
  simp [lowered]

@[simp] theorem toList_raised (text : String) :
    (raised text).toList = text.toList.map Char.toUpper := by
  simp [raised]

end Lexicon.Text
