import EntitySchema.Configuration
import EntitySchema.Document

/-!
# Choices of a configuration

Several options choose from a closed list.  A list of choices gives every value of a type its
spelling, in the order in which messages offer them.
-/

namespace EntitySchema

/-- The choices of a type: each with its spelling. -/
structure Choices (α : Type) where
  /-- The values in the order in which they are offered. -/
  values : List α
  /-- The spelling of a value. -/
  spelling : α -> String

namespace Choices

variable {α : Type}

/-- The choice with the given spelling. -/
def accept (choices : Choices α) (given : String) : Except Document.Fault α :=
  match choices.values.find? fun value => choices.spelling value == given with
  | some value => .ok value
  | none => .error (.unknownChoice given (choices.values.map choices.spelling))

end Choices

namespace Configuration

/-- The casings. -/
def casingChoices : Choices Casing where
  values := Casing.all
  spelling := Casing.spelling

/-- The casing with the given spelling, where the spelling is given outside a document. -/
def casingOfText (given : String) : Except Document.Fault Casing :=
  match Casing.ofSpelling? given with
  | some casing => .ok casing
  | none =>
      .error
        (.badOption given "modelCase" (String.intercalate ", " (Casing.all.map Casing.spelling)))

/-- The kinds of indentation. -/
def indentChoices : Choices IndentKind where
  values := [.space, .tab]
  spelling
    | .space => "space"
    | .tab => "tab"

/-- The policies on semicolons. -/
def semicolonChoices : Choices SemicolonPolicy where
  values := [.insert, .remove]
  spelling
    | .insert => "insert"
    | .remove => "remove"

/-- The ways to validate a date. -/
def dateTimeChoices : Choices DateTimeMode where
  values := [.date, .union, .transform]
  spelling
    | .date => "date"
    | .union => "union"
    | .transform => "transform"

/-- What optional fields may accept. -/
def nullabilityChoices : Choices NullabilityMode where
  values := [.nullish, .nullable]
  spelling
    | .nullish => "nullish"
    | .nullable => "nullable"

end Configuration
end EntitySchema
