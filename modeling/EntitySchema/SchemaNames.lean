import EntitySchema.Configuration

/-!
# Names of generated schemas

Every entity has a base schema over its scalar fields and, where relations are followed, a
relation-aware schema with two companion types.  The relation mode decides which of the two
schemas takes the plain name.
-/

namespace EntitySchema

/-- The options that schema names depend on. -/
structure SchemaNames where
  /-- The casing of a name. -/
  casing : Casing
  /-- What is appended to a cased name. -/
  suffix : String
  /-- Which schema takes the plain name. -/
  mode : RelationMode
  deriving DecidableEq, Repr

namespace SchemaNames

/-- The naming options of a configuration. -/
def ofConfiguration (configuration : Configuration) : SchemaNames where
  casing := configuration.modelCasing
  suffix := configuration.modelSuffix
  mode := configuration.relationMode

/-- A cased name with the suffix. -/
def cased (names : SchemaNames) (name : String) : String :=
  names.casing.apply name ++ names.suffix

/-- The name of the schema over the scalar fields of an entity. -/
def base (names : SchemaNames) (entity : String) : String :=
  match names.mode with
  | .default => "_" ++ names.cased entity
  | .enabled | .disabled => names.cased entity

/-- The name of the relation-aware schema of an entity. -/
def related (names : SchemaNames) (entity : String) : String :=
  match names.mode with
  | .default => names.cased entity
  | .enabled | .disabled => names.cased ("Related" ++ entity)

/-- The name of the type that the relation-aware schema of an entity accepts. -/
def completeInput (entity : String) : String :=
  "Complete" ++ entity ++ "Input"

/-- The name of the type that the relation-aware schema of an entity yields. -/
def completeOutput (entity : String) : String :=
  "Complete" ++ entity ++ "Output"

/-- The name of the schema that other modules use for an entity. -/
def defaultExport (names : SchemaNames) (entity : String) : String :=
  match names.mode with
  | .default => names.related entity
  | .enabled | .disabled => names.base entity

end SchemaNames
end EntitySchema
