import Lexicon.Json.Basic
import Lexicon.Locale
import Lexicon.Search

/-!
# Locales and categories in JSON

A locale is written as its display form and read from any text that names it. A category is written
as its name; it may also be read as an object that gives the name the value null.
-/

set_option autoImplicit false

namespace Lexicon

inductive LocaleJsonError where
  | notText
  | locale (cause : LocaleError)
  deriving DecidableEq, Repr

namespace Locale

def toJson (locale : Locale) : Json :=
  .string locale.tag

def ofJson (value : Json) : Except LocaleJsonError Locale :=
  match value with
  | .string text => (parse text).mapError .locale
  | _ => .error .notText

end Locale

namespace Category

def ofName? (name : String) : Option Category :=
  if name = Category.main.name then some .main else none

def toJson (category : Category) : Json :=
  .string category.name

def ofJson? : Json → Option Category
  | .string name => ofName? name
  | .object [(some name, .null)] => ofName? name
  | _ => none

end Category

end Lexicon
