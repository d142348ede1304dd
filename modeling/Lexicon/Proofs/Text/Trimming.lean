import Lexicon.Text.Blank
import Lexicon.Text.Letter
import Mathlib.Data.List.DropRight

/-!
# Trimmed texts

Trimming is known by what it leaves: a text without a blank at either end, from which the whole text
is had back by putting blanks around it. So blanks around a text, and around what is already trimmed,
make no difference to what trimming leaves.
-/

set_option autoImplicit false

namespace Lexicon.Text

def AllBlank (text : String) : Prop :=
  ∀ c ∈ text.toList, isBlank c = true

/-- No blank stands at either end. -/
def IsTrimmed (text : String) : Prop :=
  ∀ c, text.toList.head? = some c ∨ text.toList.getLast? = some c → isBlank c = false

/-! ## Lists of characters -/

theorem isBlank_of_isAlphanum {c : Char} (plain : c.isAlphanum = true) : isBlank c = false := by
  rw [Char.isAlphanum, Bool.or_eq_true, isAlpha_iff, isUpper_iff, isLower_iff,
    isDigit_iff] at plain
  rw [← Bool.not_eq_true, isBlank]
  simp only [Bool.or_eq_true, Bool.and_eq_true, decide_eq_true_eq, beq_iff_eq]
  omega

theorem trimStart_append_of_blank {blanks : List Char} (blank : ∀ c ∈ blanks, isBlank c = true)
    (cs : List Char) : trimStart (blanks ++ cs) = trimStart cs :=
  List.dropWhile_append_of_pos blank

theorem trimEnd_append_of_blank {blanks : List Char} (blank : ∀ c ∈ blanks, isBlank c = true)
    (cs : List Char) : trimEnd (cs ++ blanks) = trimEnd cs := by
  have reversed : ∀ c ∈ blanks.reverse, isBlank c = true := by
    intro c member
    exact blank c (List.mem_reverse.1 member)
  rw [trimEnd, List.reverse_append, List.dropWhile_append_of_pos reversed, trimEnd]

/-- The blanks at the start of a text end at its first other character. -/
theorem trimStart_append_cons {c : Char} (printed : isBlank c = false) (cs rest : List Char) :
    trimStart (cs ++ c :: rest) = trimStart cs ++ c :: rest := by
  rw [trimStart, List.dropWhile_append, trimStart]
  split
  · next blank =>
    rw [List.isEmpty_iff.1 blank, List.dropWhile_cons_of_neg (by simp [printed]), List.nil_append]
  · rfl

theorem trimEnd_append_cons {c : Char} (printed : isBlank c = false) (cs rest : List Char) :
    trimEnd (cs ++ c :: rest) = cs ++ c :: trimEnd rest := by
  have mirrored := trimStart_append_cons printed rest.reverse cs.reverse
  rw [trimStart, trimStart] at mirrored
  rw [trimEnd, List.reverse_append, List.reverse_cons, List.append_assoc, List.singleton_append,
    mirrored, List.reverse_append, List.reverse_cons, List.reverse_reverse, List.append_assoc,
    List.singleton_append, trimEnd]

theorem mem_of_mem_trimStart {c : Char} {cs : List Char} (member : c ∈ trimStart cs) : c ∈ cs :=
  (List.dropWhile_sublist isBlank).subset member

theorem mem_of_mem_trimEnd {c : Char} {cs : List Char} (member : c ∈ trimEnd cs) : c ∈ cs := by
  rw [trimEnd, List.mem_reverse] at member
  exact List.mem_reverse.1 (mem_of_mem_trimStart member)

theorem exists_trimStart (cs : List Char) :
    ∃ blanks, (∀ c ∈ blanks, isBlank c = true) ∧ cs = blanks ++ trimStart cs :=
  ⟨cs.takeWhile isBlank, fun _ => List.mem_takeWhile_imp, List.takeWhile_append_dropWhile.symm⟩

theorem exists_trimEnd (cs : List Char) :
    ∃ blanks, (∀ c ∈ blanks, isBlank c = true) ∧ cs = trimEnd cs ++ blanks := by
  obtain ⟨blanks, blank, split⟩ := exists_trimStart cs.reverse
  refine ⟨blanks.reverse, ?_, ?_⟩
  · intro c member
    exact blank c (List.mem_reverse.1 member)
  · rw [trimStart] at split
    rw [trimEnd, ← List.reverse_append, ← split, List.reverse_reverse]

/-! ## Texts -/

theorem trim_padded {before after : String} (blank : AllBlank before) (blank' : AllBlank after)
    (text : String) : trim (before ++ text ++ after) = trim text := by
  rw [← String.toList_inj, toList_trim, toList_trim, String.toList_append, String.toList_append,
    List.append_assoc, trimStart_append_of_blank blank, trimStart, List.dropWhile_append, trimStart]
  split
  · next nothing =>
    rw [List.isEmpty_iff.1 nothing, List.dropWhile_eq_nil_iff.2 blank']
  · exact trimEnd_append_of_blank blank' _

theorem exists_padding (text : String) :
    ∃ before after, AllBlank before ∧ AllBlank after ∧ text = before ++ trim text ++ after := by
  obtain ⟨before, blank, split⟩ := exists_trimStart text.toList
  obtain ⟨after, blank', split'⟩ := exists_trimEnd (trimStart text.toList)
  refine ⟨String.ofList before, String.ofList after, ?_, ?_, ?_⟩
  · simpa [AllBlank] using blank
  · simpa [AllBlank] using blank'
  · rw [← String.toList_inj, String.toList_append, String.toList_append, String.toList_ofList,
      String.toList_ofList, toList_trim, List.append_assoc, ← split', ← split]

private theorem isBlank_head_trimStart {cs : List Char} {c : Char}
    (first : (trimStart cs).head? = some c) : isBlank c = false := by
  have ends := List.head?_dropWhile_not isBlank cs
  rw [trimStart] at first
  rw [first] at ends
  exact ends

theorem isTrimmed_trim (text : String) : IsTrimmed (trim text) := by
  intro c ends
  rw [toList_trim] at ends
  rcases ends with first | last
  · -- What is left of the trimmed start begins as it does.
    obtain ⟨blanks, _, split⟩ := exists_trimEnd (trimStart text.toList)
    have start : (trimStart text.toList).head? = some c := by
      rw [split, List.head?_append, first, Option.some_or]
    exact isBlank_head_trimStart start
  · rw [trimEnd, List.getLast?_reverse] at last
    exact isBlank_head_trimStart last

theorem trim_of_isTrimmed {text : String} (trimmed : IsTrimmed text) : trim text = text := by
  rw [← String.toList_inj, toList_trim]
  have start : trimStart text.toList = text.toList := by
    cases cs : text.toList with
    | nil => rfl
    | cons c rest =>
      have printed := trimmed c (.inl (by rw [cs, List.head?_cons]))
      exact List.dropWhile_cons_of_neg (by simp [printed])
  rw [start, trimEnd]
  cases cs : text.toList.reverse with
  | nil => rw [List.dropWhile_nil, ← cs, List.reverse_reverse]
  | cons c rest =>
    have printed := trimmed c (.inr (by rw [← List.head?_reverse, cs, List.head?_cons]))
    rw [List.dropWhile_cons_of_neg (by simp [printed]), ← cs, List.reverse_reverse]

/-- What trimming leaves is the text without blanks at its ends that the whole text has between
blanks. -/
theorem trim_eq_iff {text trimmed : String} :
    trim text = trimmed ↔ IsTrimmed trimmed ∧
      ∃ before after, AllBlank before ∧ AllBlank after ∧ text = before ++ trimmed ++ after := by
  constructor
  · intro same
    subst same
    exact ⟨isTrimmed_trim text, exists_padding text⟩
  · intro ⟨bare, before, after, blank, blank', padded⟩
    rw [padded, trim_padded blank blank', trim_of_isTrimmed bare]

@[simp] theorem trim_trim (text : String) : trim (trim text) = trim text :=
  trim_of_isTrimmed (isTrimmed_trim text)

/-! ## Parts of a text -/

theorem trim_trimStart (text : String) :
    trim (String.ofList (trimStart text.toList)) = trim text := by
  rw [← String.toList_inj, toList_trim, toList_trim, String.toList_ofList, trimStart, trimStart,
    List.dropWhile_idempotent]

theorem trim_trimEnd (text : String) :
    trim (String.ofList (trimEnd text.toList)) = trim text := by
  obtain ⟨blanks, blank, split⟩ := exists_trimEnd text.toList
  have padded : text = "" ++ String.ofList (trimEnd text.toList) ++ String.ofList blanks := by
    rw [String.empty_append, ← String.ofList_append, ← split, String.ofList_toList]
  conv_rhs => rw [padded]
  exact (trim_padded (by simp [AllBlank]) (by simpa [AllBlank] using blank) _).symm

/-- Trimming a text of two parts trims the outer end of each. -/
theorem trim_append_append {c : Char} (printed : isBlank c = false) (left right : String) :
    trim (left ++ String.singleton c ++ right) =
      String.ofList (trimStart left.toList) ++ String.singleton c ++
        String.ofList (trimEnd right.toList) := by
  rw [← String.toList_inj, toList_trim]
  simp only [String.toList_append, String.toList_singleton, String.toList_ofList,
    List.append_assoc, List.singleton_append]
  rw [trimStart_append_cons printed, trimEnd_append_cons printed]

end Lexicon.Text
