import Lexicon.Proofs.Locale.Tag
import Lexicon.Proofs.Text.Trimming

/-!
# The grammar of locales

Which texts name a locale, and what is wrong with the others, said without the reader: the trimmed text
is one part, or two parts with one separator between them, and each part is judged by what trimming
leaves of it. The reader accepts exactly the texts of this grammar, and of all that is wrong with
another text it reports what comes first. Reading two parts from one text is the same as being given
them apart.
-/

set_option autoImplicit false

namespace Lexicon.Locale

open Text

/-! ## Parts -/

/-- The part is left with one or more ASCII letters when it is trimmed. -/
structure NamesLanguage (part : String) : Prop where
  filled : trim part ≠ ""
  letters : ∀ c ∈ (trim part).toList, c.isAlpha = true

/-- What a region part stands for. Without a part, or with a blank one, there is no region. -/
inductive NamesRegion : Option String → Option RegionCode → Prop where
  | absent : NamesRegion none none
  | blank {part : String} : trim part = "" → NamesRegion (some part) none
  | given {part : String} {code : RegionCode} : trim part ≠ "" →
      (∀ c ∈ (trim part).toList, c.isAlphanum = true) → code.val = raised (trim part) →
      NamesRegion (some part) (some code)

/-- The parts make up a locale: the language in small letters, the region in capitals. -/
structure Composes (language : String) (region : Option String) (locale : Locale) : Prop where
  named : NamesLanguage language
  lowered : locale.language = lowered (trim language)
  region : NamesRegion region locale.region

/-- What is wrong with parts that make up no locale. The language is judged before the region. -/
inductive HasFault (language : String) (region : Option String) : LocaleError → Prop where
  | noLanguage : trim language = "" → HasFault language region .empty
  | badLanguage {c : Char} : c ∈ (trim language).toList → c.isAlpha = false →
      HasFault language region (.invalid (trim language))
  | badRegion {part : String} {c : Char} : NamesLanguage language → region = some part →
      c ∈ (trim part).toList → c.isAlphanum = false →
      HasFault language region (.invalid (trim part))

theorem NamesRegion.unique {part : Option String} {first second : Option RegionCode}
    (named : NamesRegion part first) (alsoNamed : NamesRegion part second) : first = second := by
  cases named with
  | absent =>
    cases alsoNamed
    rfl
  | blank empty =>
    cases alsoNamed with
    | blank => rfl
    | given filled => exact absurd empty filled
  | given filled _ raised =>
    cases alsoNamed with
    | blank empty => exact absurd empty filled
    | given _ _ alsoRaised => exact congrArg some (Subtype.ext (raised.trans alsoRaised.symm))

theorem Composes.unique {language : String} {region : Option String} {first second : Locale}
    (composes : Composes language region first) (alsoComposes : Composes language region second) :
    first = second := by
  have languages := composes.lowered.trans alsoComposes.lowered.symm
  have regions := composes.region.unique alsoComposes.region
  cases first
  cases second
  cases languages
  cases regions
  rfl

theorem HasFault.not_composes {language : String} {region : Option String} {cause : LocaleError}
    (fault : HasFault language region cause) (locale : Locale) :
    ¬ Composes language region locale := by
  rintro ⟨named, _, regional⟩
  generalize locale.region = code at regional
  cases fault with
  | noLanguage empty => exact named.filled empty
  | badLanguage member foreign => simp [named.letters _ member] at foreign
  | badRegion _ given member foreign =>
    subst given
    cases regional with
    | blank empty => simp [empty] at member
    | given _ plain _ => simp [plain _ member] at foreign

theorem HasFault.unique {language : String} {region : Option String} {first second : LocaleError}
    (fault : HasFault language region first) (alsoFault : HasFault language region second) :
    first = second := by
  cases fault with
  | noLanguage empty =>
    cases alsoFault with
    | noLanguage => rfl
    | badLanguage member => simp [empty] at member
    | badRegion named => exact absurd empty named.filled
  | badLanguage member foreign =>
    cases alsoFault with
    | noLanguage empty => simp [empty] at member
    | badLanguage => rfl
    | badRegion named => simp [named.letters _ member] at foreign
  | badRegion named given =>
    cases alsoFault with
    | noLanguage empty => exact absurd empty named.filled
    | badLanguage member foreign => simp [named.letters _ member] at foreign
    | badRegion _ alsoGiven =>
      rw [given] at alsoGiven
      cases alsoGiven
      rfl

/-! ## Reading parts -/

theorem readRegion_spec (part : String) :
    (∃ code, readRegion part = .ok code ∧ NamesRegion (some part) code) ∨
      readRegion part = .error (.invalid (trim part)) ∧
        ∃ c ∈ (trim part).toList, c.isAlphanum = false := by
  rw [readRegion]
  split
  · next empty => exact .inl ⟨none, rfl, .blank (String.toList_eq_nil_iff.1 empty)⟩
  · next filled =>
    rw [String.toList_eq_nil_iff] at filled
    split
    · next plain =>
      exact .inl ⟨some _, rfl, .given filled (List.all_eq_true.1 plain) rfl⟩
    · next other =>
      rw [Bool.not_eq_true, List.all_eq_false] at other
      obtain ⟨c, member, foreign⟩ := other
      exact .inr ⟨rfl, c, member, Bool.not_eq_true _ ▸ foreign⟩

theorem ofParts_spec (language : String) (region : Option String) :
    (∃ locale, ofParts language region = .ok locale ∧ Composes language region locale) ∨
      ∃ cause, ofParts language region = .error cause ∧ HasFault language region cause := by
  rw [ofParts]
  split
  · next empty => exact .inr ⟨_, rfl, .noLanguage (String.toList_eq_nil_iff.1 empty)⟩
  · next filled =>
    rw [String.toList_eq_nil_iff] at filled
    split
    · next letters =>
      have named : NamesLanguage language := ⟨filled, List.all_eq_true.1 letters⟩
      cases region with
      | none => exact .inl ⟨_, rfl, named, rfl, .absent⟩
      | some part =>
        rcases readRegion_spec part with ⟨code, accepted, region⟩ | ⟨refused, c, member, foreign⟩
        · simp only [accepted]
          exact .inl ⟨_, rfl, named, rfl, region⟩
        · simp only [refused]
          exact .inr ⟨_, rfl, .badRegion named rfl member foreign⟩
    · next other =>
      rw [Bool.not_eq_true, List.all_eq_false] at other
      obtain ⟨c, member, foreign⟩ := other
      exact .inr ⟨_, rfl, .badLanguage member (Bool.not_eq_true _ ▸ foreign)⟩

theorem ofParts_eq_ok_iff {language : String} {region : Option String} {locale : Locale} :
    ofParts language region = .ok locale ↔ Composes language region locale := by
  rcases ofParts_spec language region with ⟨found, accepted, composes⟩ | ⟨cause, refused, fault⟩
  · rw [accepted, Except.ok.injEq]
    constructor
    · rintro rfl
      exact composes
    · exact composes.unique
  · rw [refused]
    constructor
    · intro impossible
      cases impossible
    · intro composes
      exact absurd composes (fault.not_composes locale)

theorem ofParts_eq_error_iff {language : String} {region : Option String} {cause : LocaleError} :
    ofParts language region = .error cause ↔ HasFault language region cause := by
  rcases ofParts_spec language region with ⟨locale, accepted, composes⟩ | ⟨found, refused, fault⟩
  · rw [accepted]
    constructor
    · intro impossible
      cases impossible
    · intro alsoFault
      exact absurd composes (alsoFault.not_composes locale)
  · rw [refused, Except.error.injEq]
    constructor
    · rintro rfl
      exact fault
    · exact fault.unique

/-- Parts are read by what trimming leaves of them. -/
theorem ofParts_congr {language other : String} {region alsoRegion : Option String}
    (languages : trim language = trim other) (regions : region.map trim = alsoRegion.map trim) :
    ofParts language region = ofParts other alsoRegion := by
  cases region with
  | none =>
    cases alsoRegion with
    | none => simp only [ofParts, languages]
    | some part => cases regions
  | some part =>
    cases alsoRegion with
    | none => cases regions
    | some alsoPart =>
      have parts : trim part = trim alsoPart := Option.some.inj regions
      simp only [ofParts, readRegion, languages, parts]

/-! ## Texts -/

/-- No separator is in the text. -/
def IsUndivided (text : String) : Prop :=
  ∀ c ∈ text.toList, isSeparator c = false

/-- How a text is divided into parts, without a separator or at the only one it has. -/
inductive Divides : String → String → Option String → Prop where
  | whole {text : String} : IsUndivided text → Divides text text none
  | apart {language region : String} {separator : Char} : IsUndivided language →
      IsUndivided region → isSeparator separator = true →
      Divides (language ++ String.singleton separator ++ region) language (some region)

/-- The text names a locale: trimmed, it is divided into parts that make up the locale. -/
def Names (text : String) (locale : Locale) : Prop :=
  ∃ language region, Divides (trim text) language region ∧ Composes language region locale

/-- What is wrong with a text that names no locale. A separator too many comes before all faults of
parts. -/
inductive Misnames (text : String) : LocaleError → Prop where
  | empty : trim text = "" → Misnames text .empty
  | crowded : 2 ≤ (trim text).toList.countP isSeparator → Misnames text (.invalid (trim text))
  | part {language : String} {region : Option String} {cause : LocaleError} : trim text ≠ "" →
      Divides (trim text) language region → HasFault language region cause → Misnames text cause

theorem cut_of_undivided {cs : List Char} (undivided : ∀ c ∈ cs, isSeparator c = false) :
    cut cs = (cs, none) := by
  have nothing : cs.dropWhile (fun c => !isSeparator c) = [] := by
    rw [List.dropWhile_eq_nil_iff]
    intro c member
    rw [undivided c member, Bool.not_false]
  rw [cut, nothing]

theorem cut_append_cons {before : List Char} (undivided : ∀ c ∈ before, isSeparator c = false)
    {separator : Char} (separates : isSeparator separator = true) (after : List Char) :
    cut (before ++ separator :: after) = (before, some after) := by
  have passed : ∀ c ∈ before, (!isSeparator c) = true := by
    intro c member
    rw [undivided c member, Bool.not_false]
  rw [cut, List.dropWhile_append_of_pos passed, List.takeWhile_append_of_pos passed,
    List.dropWhile_cons_of_neg (by simp [separates]),
    List.takeWhile_cons_of_neg (by simp [separates]), List.append_nil]

theorem parse_of_divides {text language : String} {region : Option String}
    (divides : Divides (trim text) language region) : parse text = ofParts language region := by
  rw [parse]
  generalize trim text = trimmed at divides ⊢
  cases divides with
  | whole undivided =>
    by_cases empty : language = ""
    · subst empty
      rfl
    · rw [if_neg (by simpa using empty), cut_of_undivided undivided]
      simp only [String.ofList_toList]
  | @apart language region separator plain plain' separates =>
    have spelled : (language ++ String.singleton separator ++ region).toList =
        language.toList ++ separator :: region.toList := by simp
    have single : region.toList.any isSeparator = false := by
      rw [List.any_eq_false]
      intro c member
      simp [plain' c member]
    rw [if_neg (by simp), spelled, cut_append_cons plain separates]
    simp only [single, Bool.false_eq_true, if_false, String.ofList_toList]

theorem isBlank_of_isSeparator {c : Char} (separates : isSeparator c = true) :
    isBlank c = false := by
  rw [isSeparator, Bool.or_eq_true, beq_iff_eq, beq_iff_eq] at separates
  rcases separates with rfl | rfl <;> decide

/-- Trimming a text takes blanks from its parts and leaves it divided as it is. -/
theorem Divides.exists_trim {text language : String} {region : Option String}
    (divides : Divides text language region) :
    ∃ other alsoRegion, Divides (trim text) other alsoRegion ∧ trim other = trim language ∧
      alsoRegion.map trim = region.map trim := by
  cases divides with
  | @whole text undivided =>
    refine ⟨trim text, none, .whole ?_, trim_trim text, rfl⟩
    intro c member
    rw [toList_trim] at member
    exact undivided c (mem_of_mem_trimStart (mem_of_mem_trimEnd member))
  | @apart _ region separator plain plain' separates =>
    have printed := isBlank_of_isSeparator separates
    refine ⟨_, some _, trim_append_append printed language region ▸ .apart ?_ ?_ separates,
      trim_trimStart language, congrArg some (trim_trimEnd region)⟩
    · intro c member
      rw [String.toList_ofList] at member
      exact plain c (mem_of_mem_trimStart member)
    · intro c member
      rw [String.toList_ofList] at member
      exact plain' c (mem_of_mem_trimEnd member)

/-- Parts are read from a text as if they were given apart. -/
theorem parse_divided {text language : String} {region : Option String}
    (divides : Divides text language region) : parse text = ofParts language region := by
  obtain ⟨other, alsoRegion, trimmed, languages, regions⟩ := divides.exists_trim
  rw [parse_of_divides trimmed, ofParts_congr languages regions]

theorem undivided_or_split (cs : List Char) :
    (∀ c ∈ cs, isSeparator c = false) ∨ ∃ before separator after,
      cs = before ++ separator :: after ∧ (∀ c ∈ before, isSeparator c = false) ∧
        isSeparator separator = true := by
  cases found : cs.find? isSeparator with
  | none =>
    left
    intro c member
    simpa using List.find?_eq_none.1 found c member
  | some separator =>
    obtain ⟨separates, before, after, split, plain⟩ := List.find?_eq_some_iff_append.1 found
    right
    refine ⟨before, separator, after, split, ?_, separates⟩
    intro c member
    simpa using plain c member

theorem countP_split {before : List Char} (plain : ∀ c ∈ before, isSeparator c = false)
    {separator : Char} (separates : isSeparator separator = true) (after : List Char) :
    (before ++ separator :: after).countP isSeparator = after.countP isSeparator + 1 := by
  have none : before.countP isSeparator = 0 := by
    rw [List.countP_eq_zero]
    intro c member
    simp [plain c member]
  rw [List.countP_append, none, List.countP_cons_of_pos separates, Nat.zero_add]

theorem divides_or_crowded (text : String) :
    (∃ language region, Divides text language region) ∨ 2 ≤ text.toList.countP isSeparator := by
  rcases undivided_or_split text.toList with undivided | ⟨before, separator, after, split, plain, separates⟩
  · exact .inl ⟨text, none, .whole undivided⟩
  · have count := countP_split plain separates after
    rcases Nat.eq_zero_or_pos (after.countP isSeparator) with single | more
    · have spelled : text = String.ofList before ++ String.singleton separator ++
          String.ofList after := by
        rw [← String.toList_inj, split]
        simp
      have plain' : IsUndivided (String.ofList after) := by
        intro c member
        simpa using List.countP_eq_zero.1 single c (by simpa using member)
      have alone : IsUndivided (String.ofList before) := by
        intro c member
        exact plain c (by simpa using member)
      left
      rw [spelled]
      exact ⟨_, _, .apart alone plain' separates⟩
    · rw [split, count]
      exact .inr (Nat.succ_le_succ more)

theorem parse_of_crowded {text : String}
    (crowded : 2 ≤ (trim text).toList.countP isSeparator) :
    parse text = .error (.invalid (trim text)) := by
  rcases undivided_or_split (trim text).toList with
    undivided | ⟨before, separator, after, split, plain, separates⟩
  · have none : (trim text).toList.countP isSeparator = 0 := by
      rw [List.countP_eq_zero]
      intro c member
      simp [undivided c member]
    omega
  · rw [split, countP_split plain separates] at crowded
    have another : after.any isSeparator = true := by
      rw [List.any_eq_true]
      exact List.countP_pos_iff.1 (by omega)
    have filled : (trim text).toList ≠ [] := by simp [split]
    rw [parse, if_neg filled, split, cut_append_cons plain separates]
    simp only [another, if_true]

theorem parse_of_empty {text : String} (empty : trim text = "") : parse text = .error .empty := by
  rw [parse, empty]
  rfl

theorem parse_eq_ok_iff {text : String} {locale : Locale} :
    parse text = .ok locale ↔ Names text locale := by
  constructor
  · intro accepted
    rcases divides_or_crowded (trim text) with ⟨language, region, divides⟩ | crowded
    · rw [parse_of_divides divides, ofParts_eq_ok_iff] at accepted
      exact ⟨language, region, divides, accepted⟩
    · rw [parse_of_crowded crowded] at accepted
      cases accepted
  · intro ⟨language, region, divides, composes⟩
    rw [parse_of_divides divides, ofParts_eq_ok_iff]
    exact composes

theorem parse_eq_error_iff {text : String} {cause : LocaleError} :
    parse text = .error cause ↔ Misnames text cause := by
  constructor
  · intro refused
    by_cases empty : trim text = ""
    · rw [parse_of_empty empty] at refused
      cases refused
      exact .empty empty
    · rcases divides_or_crowded (trim text) with ⟨language, region, divides⟩ | crowded
      · rw [parse_of_divides divides, ofParts_eq_error_iff] at refused
        exact .part empty divides refused
      · rw [parse_of_crowded crowded] at refused
        cases refused
        exact .crowded crowded
  · intro misnames
    cases misnames with
    | empty empty => exact parse_of_empty empty
    | crowded crowded => exact parse_of_crowded crowded
    | part _ divides fault =>
      rw [parse_of_divides divides, ofParts_eq_error_iff]
      exact fault

/-- The reader is exact. It accepts the texts of the grammar, with the locale that their parts make up,
and reports what comes first of all that is wrong with another text. A text of one part, or of two parts
around either separator, is read as these parts are when they are given apart. -/
theorem parse_exact :
    (∀ text locale, parse text = .ok locale ↔ Names text locale) ∧
    (∀ text cause, parse text = .error cause ↔ Misnames text cause) ∧
    ∀ language region, IsUndivided language → IsUndivided region →
      parse language = ofParts language none ∧
      parse (language ++ "_" ++ region) = ofParts language (some region) ∧
      parse (language ++ "-" ++ region) = ofParts language (some region) := by
  refine ⟨fun text locale => parse_eq_ok_iff, fun text cause => parse_eq_error_iff, ?_⟩
  intro language region plain plain'
  have underscore : "_" = String.singleton '_' := rfl
  have hyphen : "-" = String.singleton '-' := rfl
  rw [underscore, hyphen]
  exact ⟨parse_divided (.whole plain), parse_divided (.apart plain plain' rfl),
    parse_divided (.apart plain plain' rfl)⟩

theorem parse_exact_american :
    IsUndivided " eN\t" ∧ IsUndivided " us " ∧
      parse (" eN\t" ++ "-" ++ " us ") = .ok american ∧ Names " eN\t- us " american := by
  have plain : IsUndivided " eN\t" := by simp [IsUndivided, isSeparator]
  have plain' : IsUndivided " us " := by simp [IsUndivided, isSeparator]
  have composed : ofParts " eN\t" (some " us ") = .ok american := rfl
  obtain ⟨accepts, _, parts⟩ := parse_exact
  obtain ⟨_, _, hyphened⟩ := parts " eN\t" " us " plain plain'
  rw [composed] at hyphened
  exact ⟨plain, plain', hyphened, (accepts " eN\t- us " american).1 hyphened⟩

end Lexicon.Locale
