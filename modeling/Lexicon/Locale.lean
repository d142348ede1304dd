import Lexicon.Text.Letter
import Lexicon.Text.Blank

/-!
# Locales

A language with an optional region. A value of `Locale` is always in canonical form: the language is
one or more lower-case ASCII letters, the region one or more ASCII capitals and digits. Equality is
exact, so `en` and `en_US` are different locales.

`Locale.parse` reads `language`, `language_REGION` or `language-REGION`, in any case and with blanks
around the whole text and around either part.
-/

set_option autoImplicit false

namespace Lexicon

inductive LocaleError where
  | empty
  /-- The quoted part is not made of the characters it may hold, or the text has too many parts. -/
  | invalid (text : String)
  deriving DecidableEq, Repr

def LocaleError.message : LocaleError → String
  | .empty => "Empty locale"
  | .invalid text => "Invalid locale: " ++ text

/-- One or more lower-case ASCII letters. -/
def IsLanguage (text : String) : Prop :=
  text.toList ≠ [] ∧ ∀ c ∈ text.toList, c.isLower = true

/-- One or more ASCII capitals and digits. -/
def IsRegion (text : String) : Prop :=
  text.toList ≠ [] ∧ ∀ c ∈ text.toList, Text.isCode c = true

theorem isLanguage_lowered {text : String} (nonempty : text.toList ≠ [])
    (letters : text.toList.all Char.isAlpha = true) : IsLanguage (Text.lowered text) := by
  refine ⟨by simpa using nonempty, ?_⟩
  intro c member
  simp only [Text.toList_lowered, List.mem_map] at member
  obtain ⟨letter, held, rfl⟩ := member
  exact Text.isLower_toLower (List.all_eq_true.1 letters letter held)

theorem isRegion_raised {text : String} (nonempty : text.toList ≠ [])
    (plain : text.toList.all Char.isAlphanum = true) : IsRegion (Text.raised text) := by
  refine ⟨by simpa using nonempty, ?_⟩
  intro c member
  simp only [Text.toList_raised, List.mem_map] at member
  obtain ⟨letter, held, rfl⟩ := member
  exact Text.isCode_toUpper (List.all_eq_true.1 plain letter held)

abbrev RegionCode := { text : String // IsRegion text }

structure Locale where
  language : String
  region : Option RegionCode
  isLanguage : IsLanguage language
  deriving DecidableEq

namespace Locale

/-- Reads a region part. A blank part is no region. -/
def readRegion (part : String) : Except LocaleError (Option RegionCode) :=
  let part := Text.trim part
  if nonempty : part.toList = [] then
    .ok none
  else if plain : part.toList.all Char.isAlphanum = true then
    .ok (some ⟨Text.raised part, isRegion_raised nonempty plain⟩)
  else
    .error (.invalid part)

/-- The locale of a language part and, if there is one, a region part. The language is judged first. -/
def ofParts (language : String) (region : Option String) : Except LocaleError Locale :=
  let language := Text.trim language
  if nonempty : language.toList = [] then
    .error .empty
  else if letters : language.toList.all Char.isAlpha = true then
    match region with
    | none => .ok ⟨Text.lowered language, none, isLanguage_lowered nonempty letters⟩
    | some part =>
      match readRegion part with
      | .error cause => .error cause
      | .ok code => .ok ⟨Text.lowered language, code, isLanguage_lowered nonempty letters⟩
  else
    .error (.invalid language)

def isSeparator (c : Char) : Bool :=
  c == '_' || c == '-'

/-- Cuts a text at its first separator. Without one there is no second part. -/
def cut (cs : List Char) : List Char × Option (List Char) :=
  match cs.dropWhile (fun c => !isSeparator c) with
  | [] => (cs, none)
  | _ :: rest => (cs.takeWhile (fun c => !isSeparator c), some rest)

/-- Reads a locale from text. A second separator makes the whole text invalid. -/
def parse (text : String) : Except LocaleError Locale :=
  let text := Text.trim text
  if text.toList = [] then
    .error .empty
  else
    match cut text.toList with
    | (language, none) => ofParts (String.ofList language) none
    | (language, some region) =>
      if region.any isSeparator then
        .error (.invalid text)
      else
        ofParts (String.ofList language) (some (String.ofList region))

/-- The display form, `language` or `language_REGION`. -/
def tag (locale : Locale) : String :=
  match locale.region with
  | none => locale.language
  | some code => locale.language ++ "_" ++ code.val

/-- The lower-case endings of resource names that serve a locale, the most specific first. -/
def suffixes (locale : Locale) : List String :=
  match locale.region with
  | none => [locale.language]
  | some code => [locale.language ++ "_" ++ Text.lowered code.val, locale.language]

end Locale

end Lexicon
