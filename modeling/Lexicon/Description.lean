import Lexicon.Collection

/-!
# Descriptions

A collection in one line of text, for logs and for people.
-/

set_option autoImplicit false

namespace Lexicon

/-- The text that describes a locale in a description of a collection. -/
def Locale.describe (locale : Locale) : String :=
  "Locale \x7b language: \"" ++ locale.language ++ "\", region: " ++
    (match locale.region with
      | none => "None"
      | some code => "Some(\"" ++ code.val ++ "\")") ++ " \x7d"

def Category.describe : Category → String
  | .main => "Main"

/-- A collection in one line: its role, its locale, how many members it has and whether it is
closed. -/
def Collection.describe {α : Type} (collection : Collection α) : String :=
  "DictionaryCollection \x7b dictionary_type: " ++ collection.category.describe ++ ", locale: " ++
    (match collection.locale with
      | none => "None"
      | some locale => "Some(" ++ locale.describe ++ ")") ++
    ", members: " ++ toString collection.size ++ ", closed: " ++ toString collection.isClosed ++
    " \x7d"

end Lexicon
