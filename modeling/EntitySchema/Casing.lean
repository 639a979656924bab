import EntitySchema.Casing.Words

/-!
# Identifier casings

Names of entities become identifiers and file names under one of three casings.  Two of them
touch only an unaccented first letter; the third respells the name as lower case words.
-/

namespace EntitySchema

/-- A way to case a name. -/
inductive Casing
  | pascal
  | camel
  | snake
  deriving DecidableEq, Repr

namespace Casing

/-- All casings, in the order in which they are offered. -/
def all : List Casing := [pascal, camel, snake]

/-- How a casing is written as an option value. -/
def spelling : Casing -> String
  | pascal => "PascalCase"
  | camel => "camelCase"
  | snake => "snake_case"

/-- The casing with the given spelling. -/
def ofSpelling? (text : String) : Option Casing :=
  all.find? fun casing => casing.spelling == text

/-- Change the first character of a text and keep the rest. -/
def mapFirst (change : Char -> Char) : List Char -> List Char
  | [] => []
  | first :: rest => change first :: rest

/-- The lower case words of a name, joined by underscores. -/
def snakeForm (name : List Char) : List Char :=
  List.intercalate ['_'] ((words name).map Text.lowercase)

/-- The cased form of the characters of a name. -/
def applyChars : Casing -> List Char -> List Char
  | pascal => mapFirst Char.toUpper
  | camel => mapFirst Char.toLower
  | snake => snakeForm

/-- The cased form of a name. -/
def apply (casing : Casing) (name : String) : String :=
  String.ofList (casing.applyChars name.toList)

end Casing
end EntitySchema
