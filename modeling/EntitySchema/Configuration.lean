import EntitySchema.Casing

/-!
# Configuration

The options that decide which modules are generated, how their parts are named and how their text
is laid out.
-/

namespace EntitySchema

/-- Whether relation-aware schemas are generated, and which schema takes the plain name. -/
inductive RelationMode
  /-- Only base schemas are generated. -/
  | disabled
  /-- Both schemas are generated and the base schema takes the plain name. -/
  | enabled
  /-- Both schemas are generated and the relation-aware schema takes the plain name. -/
  | default
  deriving DecidableEq, Repr

/-- Whether relation-aware schemas are generated. -/
def RelationMode.isEnabled (mode : RelationMode) : Bool :=
  mode != .disabled

/-- What a line is indented by. -/
inductive IndentKind
  | space
  | tab
  deriving DecidableEq, Repr

/-- Whether statements end with a semicolon. -/
inductive SemicolonPolicy
  | insert
  | remove
  deriving DecidableEq, Repr

/-- How a date and time is validated. -/
inductive DateTimeMode
  /-- As a date object. -/
  | date
  /-- As a date object or as a text in the standard date format. -/
  | union
  /-- As a date object that is turned into a text. -/
  | transform
  deriving DecidableEq, Repr

/-- What an optional field accepts. -/
inductive NullabilityMode
  /-- Null and absence. -/
  | nullish
  /-- Null only. -/
  | nullable
  deriving DecidableEq, Repr

/-- The options of a run. -/
structure Configuration where
  /-- Whether and how relation-aware schemas are generated. -/
  relationMode : RelationMode := .enabled
  /-- What is appended to the name of a schema. -/
  modelSuffix : String := "Model"
  /-- The casing of schema names. -/
  modelCasing : Casing := .pascal
  /-- Whether decimals are validated with the decimal library. -/
  useDecimalLibrary : Bool := false
  /-- A module of user helpers, as a path from the data model's directory. -/
  imports : Option String := none
  /-- Whether null is left out of the values of a JSON field. -/
  excludeJsonNull : Bool := true
  /-- The casing of file names. -/
  fileCasing : Casing := .pascal
  /-- The name of the generated module of enums, if there is to be one. -/
  enumFile : Option String := none
  /-- The specifier of a module that exports the enums. -/
  enumImport : Option String := none
  /-- The number of spaces of one level of indentation. -/
  indentSize : Nat := 2
  /-- What lines are indented by. -/
  indentKind : IndentKind := .space
  /-- Whether literals are written in single quotes. -/
  singleQuote : Bool := false
  /-- Whether statements end with a semicolon. -/
  semicolons : SemicolonPolicy := .insert
  /-- Whether the last entry of a block is followed by a comma. -/
  trailingCommas : Bool := true
  /-- Whether type errors of relation-aware schemas are silenced. -/
  ignoreRelationTypes : Bool := false
  /-- How dates are validated. -/
  dateTimeMode : DateTimeMode := .date
  /-- What optional fields accept. -/
  nullability : NullabilityMode := .nullish
  deriving DecidableEq, Repr

end EntitySchema
