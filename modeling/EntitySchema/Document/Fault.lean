import EntitySchema.Json
import EntitySchema.Json.Printer
import EntitySchema.Text.Quoted

/-!
# Faults of a document

A document can be well formed and still not describe what it should.  Every way in which that
happens is one constructor, and the wording of all of them is in one place.
-/

namespace EntitySchema
namespace Document

/-- What stands where something else was expected. -/
inductive Found
  | null
  | flag (value : Bool)
  | number (value : Json.Number)
  | text (value : String)
  | sequence
  | map
  deriving DecidableEq, Repr

/-- The wording of what was found. -/
def Found.description : Found -> String
  | null => "null"
  | flag value => "boolean `" ++ toString value ++ "`"
  | number (.real value) => "floating point `" ++ value.text ++ "`"
  | number value => "integer `" ++ value.text ++ "`"
  | text value => "string " ++ Text.quoted value
  | sequence => "sequence"
  | map => "map"

/-- What a reader expects. -/
inductive Expectation
  | text
  | flag
  | sequence
  | nothing
  | record (title : String)
  deriving DecidableEq, Repr

/-- The wording of an expectation. -/
def Expectation.description : Expectation -> String
  | text => "a string"
  | flag => "a boolean"
  | sequence => "a sequence"
  | nothing => "unit"
  | record title => "struct " ++ title

/-- What is wrong with a text that should spell a whole number. -/
inductive NumeralFault
  | empty
  | notDigit
  | tooLarge
  deriving DecidableEq, Repr

/-- The wording of a fault in a whole number. -/
def NumeralFault.message : NumeralFault -> String
  | empty => "cannot parse integer from empty string"
  | notDigit => "invalid digit found in string"
  | tooLarge => "number too large to fit in target type"

/-- What is wrong with a document. -/
inductive Fault
  /-- The text of the document is not well formed. -/
  | json (fault : Json.TextFault)
  /-- The text of the document is not a single well-formed YAML document. -/
  | yaml
  /-- A value of another type stands where one was expected. -/
  | wrongType (found : Found) (expected : Expectation)
  /-- A choice is not among the offered ones. -/
  | unknownChoice (given : String) (offered : List String)
  /-- A choice is given in a form that no choice has. -/
  | noChoice
  /-- A field is given twice. -/
  | repeatedField (name : String)
  /-- A field that has no default is not given. -/
  | missingField (name : String)
  /-- A record given by position ends before its last field without default. -/
  | tooFewItems (count : Nat) (title : String) (fieldCount : Nat)
  /-- A record given by position has more items than fields. -/
  | tooManyItems
  /-- A value is none of those that may also be spelled as a text. -/
  | notLenient
  /-- An option has a value outside a closed list. -/
  | badOption (value : String) (option : String) (offered : String)
  /-- A text should spell a truth value. -/
  | notTruthText (text : String)
  /-- A number stands where a truth value was expected. -/
  | numberForTruth (value : Nat)
  /-- A truth value stands where a number was expected. -/
  | truthForNumber (value : Bool)
  /-- A text should spell a whole number. -/
  | badNumeral (fault : NumeralFault)
  /-- A field is of no known kind. -/
  | unknownKind (field kind : String)
  deriving DecidableEq, Repr

/-- The choices as a message lists them. -/
def offeredChoices : List String -> String
  | [first, second] => "`" ++ first ++ "` or `" ++ second ++ "`"
  | choices => "one of " ++ String.intercalate ", " (choices.map fun choice => "`" ++ choice ++ "`")

/-- The wording of an option value outside a closed list. -/
def badOptionMessage (value option offered : String) : String :=
  "invalid value " ++ Text.quoted value ++ " for option `" ++ option ++ "`; expected one of: " ++
    offered

/-- The wording of a fault. -/
def Fault.message : Fault -> String
  | json fault => fault.message
  | yaml => "malformed document"
  | wrongType found expected =>
      "invalid type: " ++ found.description ++ ", expected " ++ expected.description
  | unknownChoice given offered =>
      "unknown variant `" ++ given ++ "`, expected " ++ offeredChoices offered
  | noChoice => "expected value"
  | repeatedField name => "duplicate field `" ++ name ++ "`"
  | missingField name => "missing field `" ++ name ++ "`"
  | tooFewItems count title fieldCount =>
      "invalid length " ++ toString count ++ ", expected struct " ++ title ++ " with " ++
        toString fieldCount ++ " elements"
  | tooManyItems => "trailing characters"
  | notLenient => "data did not match any variant of untagged enum Lenient"
  | badOption value option offered => badOptionMessage value option offered
  | notTruthText text => "expected \"true\" or \"false\", got " ++ Text.quoted text
  | numberForTruth value => "expected a boolean, got " ++ toString value
  | truthForNumber value => "expected a number, got " ++ toString value
  | badNumeral fault => fault.message
  | unknownKind field kind =>
      "field `" ++ field ++ "` has unknown kind " ++ Text.quoted kind

end Document
end EntitySchema
