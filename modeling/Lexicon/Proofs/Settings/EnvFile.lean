import Lexicon.Settings.EnvFile
import Lexicon.Proofs.Text.ByteOrder
import Lexicon.Proofs.Text.Trimming

/-!
# Written files of environment variables

A file with one assignment on a line, in which every character stands for itself, is read as these
assignments in this order. A malformed line after them changes nothing about that, whatever follows it.
-/

set_option autoImplicit false

namespace Lexicon.EnvFile

/-- A character that stands for itself in a value. -/
structure IsLiteral (c : Char) : Prop where
  inked : Text.isBlank c = false
  unescaped : c ≠ '\\'
  unquoted : c ≠ '"' ∧ c ≠ '\''
  unreferred : c ≠ '$'
  uncommented : c ≠ '#'

structure IsPlain (assignment : String × String) : Prop where
  begins : ∃ c ∈ assignment.1.toList.head?, beginsName c = true
  name : ∀ c ∈ assignment.1.toList, isInName c = true
  value : ∀ c ∈ assignment.2.toList, IsLiteral c

/-- A line that begins with an ASCII character with which no name begins. -/
structure IsMalformed (line : String) : Prop where
  begins : ∃ c ∈ line.toList.head?, beginsName c = false ∧ c.toNat < 0x80
  literal : ∀ c ∈ line.toList, IsLiteral c

def lineOf (assignment : String × String) : String :=
  assignment.1 ++ "=" ++ assignment.2

def written : List (String × String) → String
  | [] => ""
  | assignment :: rest => lineOf assignment ++ "\n" ++ written rest

/-- The bytes of a file in which assignments are written, up to its end or to a malformed line. -/
def Lists (bytes : List UInt8) (listed : List (String × String)) : Prop :=
  (∀ assignment ∈ listed, IsPlain assignment) ∧
    ∃ rest, bytes = Text.encodeUtf8 (written listed) ++ rest ∧
      (rest = [] ∨ ∃ line later, IsMalformed line ∧ rest = Text.encodeUtf8 (line ++ "\n") ++ later)

/-! ## Lines -/

theorem isLiteral_of_isInName {c : Char} (word : isInName c = true) : IsLiteral c := by
  rw [isInName, Bool.or_eq_true, Bool.or_eq_true, beq_iff_eq, beq_iff_eq] at word
  rcases word with (letter | rfl) | rfl
  · refine ⟨Text.isBlank_of_isAlphanum letter, ?_, ⟨?_, ?_⟩, ?_, ?_⟩ <;>
      (rintro rfl; cases letter)
  · constructor <;> decide
  · constructor <;> decide

/-- A word assigned to a name is plain. -/
theorem isPlain_of_all {assignment : String × String}
    (begins : ∃ c ∈ assignment.1.toList.head?, beginsName c = true)
    (name : assignment.1.toList.all isInName = true)
    (word : assignment.2.toList.all isInName = true) : IsPlain assignment where
  begins := begins
  name := List.all_eq_true.1 name
  value c member := isLiteral_of_isInName (List.all_eq_true.1 word c member)

theorem IsPlain.literal {assignment : String × String} (plain : IsPlain assignment) :
    ∀ c ∈ (lineOf assignment).toList, IsLiteral c := by
  intro c member
  rw [lineOf, String.toList_append, String.toList_append, List.mem_append, List.mem_append] at member
  rcases member with (name | equals) | value
  · exact isLiteral_of_isInName (plain.name c name)
  · rw [List.mem_singleton.1 equals]
    constructor <;> decide
  · exact plain.value c value

theorem toList_lineOf (assignment : String × String) :
    (lineOf assignment).toList = assignment.1.toList ++ '=' :: assignment.2.toList := by
  rw [lineOf, String.toList_append, String.toList_append, List.append_assoc]
  rfl

theorem toList_lineOf_ne_nil (assignment : String × String) : (lineOf assignment).toList ≠ [] := by
  rw [toList_lineOf]
  exact List.append_ne_nil_of_right_ne_nil _ (List.cons_ne_nil _ _)

/-- No byte of literal characters ends a line. -/
theorem ne_lineEnd_of_mem {line : String} (literal : ∀ c ∈ line.toList, IsLiteral c) :
    ∀ byte ∈ Text.encodeUtf8 line, byte ≠ 0x0A := by
  intro byte member same
  rw [Text.encodeUtf8_eq_flatMap, List.mem_flatMap] at member
  obtain ⟨c, own, part⟩ := member
  have inked := (literal c own).inked
  rcases Text.toNat_of_mem_utf8EncodeChar part with code | ⟨high, _⟩
  · rw [same] at code
    simp [Text.isBlank, ← code] at inked
  · rw [same] at high
    exact absurd high (by decide)

theorem foldr_splitByte {line : List UInt8} (undivided : ∀ byte ∈ line, byte ≠ 0x0A)
    (lines : List UInt8 × List (List UInt8)) :
    line.foldr splitByte lines = (line ++ lines.1, lines.2) := by
  induction line with
  | nil => rfl
  | cons byte line ih =>
    obtain ⟨first, later⟩ := List.forall_mem_cons.1 undivided
    rw [List.foldr_cons, ih later, splitByte, if_neg first]
    rfl

theorem writtenLines_append {line : String} (literal : ∀ c ∈ line.toList, IsLiteral c)
    (rest : List UInt8) :
    writtenLines (Text.encodeUtf8 (line ++ "\n") ++ rest) =
      Text.encodeUtf8 (line ++ "\n") :: writtenLines rest := by
  have ended : Text.encodeUtf8 (line ++ "\n") = Text.encodeUtf8 line ++ [0x0A] :=
    Text.encodeUtf8_append line "\n"
  rw [ended, writtenLines, List.append_assoc, List.foldr_append, List.singleton_append,
    List.foldr_cons, foldr_splitByte (ne_lineEnd_of_mem literal), splitByte, if_pos rfl,
    gatherLines, if_neg (List.append_ne_nil_of_right_ne_nil _ (List.cons_ne_nil _ _))]
  rfl

theorem scanLine_literal {line : List Char} (literal : ∀ c ∈ line, IsLiteral c)
    (before : List Char) : scanLine .plain before (line ++ ['\n']) = .inl .plain := by
  induction line generalizing before with
  | nil => rfl
  | cons c line ih =>
    obtain ⟨first, later⟩ := List.forall_mem_cons.1 literal
    have stays : Scan.plain.next c = .plain := by
      simp [Scan.next, Scan.outside, first.inked, first.unescaped, first.unquoted]
    rw [List.cons_append, scanLine, stays, if_neg (by simp), ih later]

theorem trimStart_literal {line : List Char} (literal : ∀ c ∈ line, IsLiteral c) :
    Text.trimStart line = line := by
  cases line with
  | nil => rfl
  | cons c line =>
    have inked := (literal c List.mem_cons_self).inked
    exact List.dropWhile_cons_of_neg (by simp [inked])

theorem trimEnd_literal {line : List Char} (literal : ∀ c ∈ line, IsLiteral c) :
    Text.trimEnd line = line := by
  have reversed : Text.trimStart line.reverse = line.reverse :=
    trimStart_literal fun c member => literal c (List.mem_reverse.1 member)
  rw [Text.trimStart] at reversed
  rw [Text.trimEnd, reversed, List.reverse_reverse]

theorem dropLineEnd_literal {line : List Char} (literal : ∀ c ∈ line, IsLiteral c) :
    dropLineEnd (line ++ ['\n']) = line := by
  rw [dropLineEnd, List.reverse_append, List.reverse_singleton, List.singleton_append]
  split
  · next rest same =>
    -- A carriage return before the line end would be a blank.
    have last : '\r' ∈ line := by
      rw [← List.mem_reverse, (List.cons.inj same).2]
      exact List.mem_cons_self
    cases (literal '\r' last).inked
  · next rest _ same =>
    rw [← (List.cons.inj same).2, List.reverse_reverse]
  · next other =>
    exact absurd rfl (other _)

theorem joinLines_literal {line : String} (filled : line.toList ≠ [])
    (literal : ∀ c ∈ line.toList, IsLiteral c) (rest : List (Option String)) :
    joinLines .plain [] (some (line ++ "\n") :: rest) =
      some line.toList :: joinLines .plain [] rest := by
  have uncommented : ¬ (Text.trimStart (line.toList ++ ['\n'])).head? = some '#' := by
    cases start : line.toList with
    | nil => exact absurd start filled
    | cons c others =>
      have first := literal c (start ▸ List.mem_cons_self)
      rw [List.cons_append, Text.trimStart, List.dropWhile_cons_of_neg (by simp [first.inked])]
      simpa using first.uncommented
  have ended : (line ++ "\n").toList = line.toList ++ ['\n'] := String.toList_append
  rw [joinLines, List.nil_append, ended, if_neg uncommented, scanLine_literal literal]
  dsimp only
  rw [dropLineEnd_literal literal]

/-! ## Assignments -/

theorem readTarget?_lineOf {assignment : String × String} (plain : IsPlain assignment) :
    readTarget? (lineOf assignment).toList = some (assignment.1.toList, assignment.2.toList) := by
  have named : readName? (lineOf assignment).toList =
      some (assignment.1.toList, '=' :: assignment.2.toList) := by
    obtain ⟨c, first, begins⟩ := plain.begins
    obtain ⟨others, start⟩ := List.head?_eq_some_iff.1 first
    have stop : isInName '=' = false := rfl
    rw [toList_lineOf, start, List.cons_append, readName?, if_pos begins, ← List.cons_append, ← start,
      List.takeWhile_append_of_pos plain.name, List.dropWhile_append_of_pos plain.name,
      List.takeWhile_cons_of_neg (by simp [stop]), List.dropWhile_cons_of_neg (by simp [stop]),
      List.append_nil]
  have unblank : Text.trimStart ('=' :: assignment.2.toList) = '=' :: assignment.2.toList := rfl
  simp only [readTarget?, named, unblank, readEquals?, Option.bind_eq_bind, Option.bind_some]

theorem step_literal (environment : Environment) (before : List Char) {c : Char}
    (literal : IsLiteral c) :
    Reading.step environment { value := before } c = some { value := c :: before } := by
  have space : c ≠ ' ' := by
    rintro rfl
    cases literal.inked
  have tab : c ≠ '\t' := by
    rintro rfl
    cases literal.inked
  simp [Reading.step, Reading.push, space, tab, literal.unescaped, literal.unquoted,
    literal.unreferred]

theorem readValue?_literal (environment : Environment) (before : List Char) {value : List Char}
    (literal : ∀ c ∈ value, IsLiteral c) :
    Reading.readValue? environment { value := before } value =
      some (String.ofList (before.reverse ++ value)) := by
  induction value generalizing before with
  | nil =>
    rw [List.append_nil]
    rfl
  | cons c value ih =>
    obtain ⟨first, later⟩ := List.forall_mem_cons.1 literal
    rw [Reading.readValue?, if_neg (by simp), step_literal environment before first]
    dsimp only
    rw [ih (c :: before) later, List.reverse_cons, List.append_assoc]
    rfl

section ReadLine

variable {line : List Char} (literal : ∀ c ∈ line, IsLiteral c) (filled : line ≠ [])

include literal

theorem trimmed_literal : Text.trimStart (Text.trimEnd line) = line := by
  rw [trimEnd_literal literal, trimStart_literal literal]

include filled

theorem not_nothing_literal : ¬ (line = [] ∨ line.head? = some '#') := by
  cases line with
  | nil => exact absurd rfl filled
  | cons c others =>
    have first := (literal c List.mem_cons_self).uncommented
    simpa using first

end ReadLine

theorem IsMalformed.filled {line : String} (malformed : IsMalformed line) : line.toList ≠ [] := by
  obtain ⟨c, first, _⟩ := malformed.begins
  intro none
  rw [none] at first
  cases first

theorem readLine_lineOf (environment : Environment) {assignment : String × String}
    (plain : IsPlain assignment) :
    readLine environment (lineOf assignment).toList = .assignment assignment.1 assignment.2 := by
  have read := readValue?_literal environment [] plain.value
  simp only [readLine, trimmed_literal plain.literal,
    if_neg (not_nothing_literal plain.literal (toList_lineOf_ne_nil assignment)), readTarget?_lineOf plain,
    trimStart_literal plain.value, String.ofList_toList]
  by_cases empty : assignment.2.toList = []
  · have value : assignment.2 = "" := String.toList_inj.1 empty
    rw [if_pos (.inl empty), value]
  · rw [if_neg (not_nothing_literal plain.value empty)]
    rw [List.reverse_nil, List.nil_append, String.ofList_toList] at read
    rw [read]

theorem readLine_malformed (environment : Environment) {line : String}
    (malformed : IsMalformed line) : readLine environment line.toList = .malformed := by
  have unnamed : readTarget? line.toList = none := by
    obtain ⟨c, first, other, _⟩ := malformed.begins
    obtain ⟨others, start⟩ := List.head?_eq_some_iff.1 first
    rw [readTarget?, start, readName?, other]
    rfl
  simp only [readLine, trimmed_literal malformed.literal,
    if_neg (not_nothing_literal malformed.literal malformed.filled), unnamed]

/-! ## Files -/

/-- A text that begins with an ASCII character begins with no mark. -/
theorem dropMark_of_ascii {text : String} {c : Char} (first : c ∈ text.toList.head?)
    (ascii : c.toNat < 0x80) (rest : List UInt8) :
    dropMark (Text.encodeUtf8 text ++ rest) = Text.encodeUtf8 text ++ rest := by
  obtain ⟨others, start⟩ := List.head?_eq_some_iff.1 first
  rw [Text.encodeUtf8_eq_flatMap, start, List.flatMap_cons]
  cases encoded : String.utf8EncodeChar c with
  | nil => exact absurd encoded String.utf8EncodeChar_ne_nil
  | cons byte bytes =>
    have code := Text.toNat_of_mem_utf8EncodeChar (encoded ▸ List.mem_cons_self)
    rw [List.cons_append, List.cons_append, dropMark]
    intro others same
    have mark : (0xEF : UInt8).toNat = 0xEF := rfl
    rw [(List.cons.inj same).1] at code
    omega

theorem ascii_of_beginsName {c : Char} (begins : beginsName c = true) : c.toNat < 0x80 := by
  rw [beginsName, Bool.or_eq_true, beq_iff_eq, Text.isAlpha_iff, Text.isUpper_iff,
    Text.isLower_iff] at begins
  rcases begins with (upper | lower) | rfl
  · omega
  · omega
  · decide

/-- What the lines of a file assign, without a mark at its start. -/
theorem assignmentsOf_written (environment : Environment) {listed : List (String × String)}
    (plain : ∀ assignment ∈ listed, IsPlain assignment) (rest : List UInt8) :
    ∃ later : Environment, assignmentsOf environment (joinLines .plain []
        ((writtenLines (Text.encodeUtf8 (written listed) ++ rest)).map Text.decodeUtf8?)) =
      listed ++ assignmentsOf later
        (joinLines .plain [] ((writtenLines rest).map Text.decodeUtf8?)) := by
  induction listed generalizing environment with
  | nil => exact ⟨environment, rfl⟩
  | cons assignment listed ih =>
    obtain ⟨first, others⟩ := List.forall_mem_cons.1 plain
    obtain ⟨later, read⟩ := ih (environment.setDefault assignment.1 assignment.2) others
    refine ⟨later, ?_⟩
    rw [written, Text.encodeUtf8_append, List.append_assoc, writtenLines_append first.literal,
      List.map_cons, Text.decodeUtf8?_encodeUtf8, joinLines_literal (toList_lineOf_ne_nil assignment) first.literal,
      assignmentsOf, readLine_lineOf environment first]
    dsimp only
    rw [read]
    rfl

/-- The end of a file assigns nothing, and neither does what begins with a malformed line. -/
theorem assignmentsOf_end (environment : Environment) {rest : List UInt8}
    (ends : rest = [] ∨
      ∃ line later, IsMalformed line ∧ rest = Text.encodeUtf8 (line ++ "\n") ++ later) :
    assignmentsOf environment
      (joinLines .plain [] ((writtenLines rest).map Text.decodeUtf8?)) = [] := by
  rcases ends with rfl | ⟨line, later, malformed, rfl⟩
  · rfl
  · rw [writtenLines_append malformed.literal, List.map_cons, Text.decodeUtf8?_encodeUtf8,
      joinLines_literal malformed.filled malformed.literal, assignmentsOf,
      readLine_malformed environment malformed]

theorem Lists.dropMark {bytes : List UInt8} {listed : List (String × String)}
    (lists : Lists bytes listed) : EnvFile.dropMark bytes = bytes := by
  obtain ⟨plain, rest, rfl, ends⟩ := lists
  cases listed with
  | nil =>
    rcases ends with rfl | ⟨line, later, malformed, rfl⟩
    · rfl
    · obtain ⟨c, first, _, ascii⟩ := malformed.begins
      refine dropMark_of_ascii ?_ ascii later
      rw [String.toList_append, List.head?_append_of_ne_nil _ malformed.filled]
      exact first
  | cons assignment listed =>
    obtain ⟨c, first, begins⟩ := (plain assignment List.mem_cons_self).begins
    obtain ⟨others, start⟩ := List.head?_eq_some_iff.1 first
    refine dropMark_of_ascii ?_ (ascii_of_beginsName begins) rest
    rw [written, String.toList_append, String.toList_append, toList_lineOf, start]
    rfl

/-- A file is read as the assignments that are written in it. -/
theorem assignments_of_lists (environment : Environment) {bytes : List UInt8}
    {listed : List (String × String)} (lists : Lists bytes listed) :
    assignments environment bytes = listed := by
  rw [assignments, lists.dropMark]
  obtain ⟨plain, rest, rfl, ends⟩ := lists
  obtain ⟨later, read⟩ := assignmentsOf_written environment plain rest
  rw [read, assignmentsOf_end later ends, List.append_nil]

end Lexicon.EnvFile
