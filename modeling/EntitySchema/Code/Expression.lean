/-!
# Expressions of generated code

The parts of generated modules that carry meaning: validators, object schemas and constant
objects.  How they are broken into lines is decided elsewhere.
-/

namespace EntitySchema
namespace Code

/-- A validator: an expression followed by calls. -/
structure Validator where
  /-- The expression at the start. -/
  base : String
  /-- The calls that follow it, each without its leading dot. -/
  modifiers : List String := []
  deriving DecidableEq, Repr

namespace Validator

/-- The validator followed by one more call. -/
def append (validator : Validator) (modifier : String) : Validator :=
  { validator with modifiers := validator.modifiers ++ [modifier] }

/-- The text of a validator. -/
def text (validator : Validator) : String :=
  validator.base ++ String.join (validator.modifiers.map fun modifier => "." ++ modifier)

end Validator

/-- An entry of an object schema. -/
structure Property where
  /-- The lines of the comment above the entry. -/
  docs : List String := []
  /-- The name of the entry. -/
  name : String
  /-- What the entry has to satisfy. -/
  value : Validator
  deriving DecidableEq, Repr

/-- The value of a constant. -/
inductive Expression
  /-- A validator on one line. -/
  | validator (value : Validator)
  /-- An object schema with the given entries. -/
  | object (properties : List Property)
  /-- A schema extended by the given entries. -/
  | extend (base : String) (properties : List Property)
  /-- An expression that is evaluated at its first use. -/
  | lazy (inner : Expression)
  /-- An object of constant texts. -/
  | constObject (entries : List (String × String))
  /-- Lines as they are, each with its level of indentation. -/
  | verbatim (lines : List (Nat × String))
  deriving DecidableEq, Repr

end Code
end EntitySchema
