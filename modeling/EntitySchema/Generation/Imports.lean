import EntitySchema.Code.Module
import EntitySchema.Generation.FieldSchema
import EntitySchema.Specifier

/-!
# Imports of entity modules

A module imports the validator library and beyond it only what its declarations name.  The list
depends on which names occur, never on the order of the fields.
-/

namespace EntitySchema

namespace Imports

/-- The name under which the module of user helpers is imported. -/
def helperNamespace : String := "imports"

/-- The module that re-exports all other modules, seen from any of them. -/
def barrelSpecifier : String := "./index"

/-- Whether a text occurs in another one. -/
def occursIn (part : List Char) : List Char -> Bool
  | [] => part.isEmpty
  | character :: rest => part.isPrefixOf (character :: rest) || occursIn part rest

/-- Whether a directive of a field mentions the module of user helpers. -/
def mentionsHelpers (field : Field) : Bool :=
  field.docs.directives.any fun directive =>
    occursIn (helperNamespace ++ ".").toList directive.text.toList

/-- The module of user helpers, where it is configured and mentioned. -/
def ofHelpers (configuration : Configuration) (layout : FileLayout) (entity : Entity) :
    List Code.Import :=
  match configuration.imports with
  | some path =>
      if entity.fields.any mentionsHelpers then
        [{ source := layout.schemaSpecifier path, binding := .whole helperNamespace }]
      else []
  | none => []

/-- The decimal library, where the decimal helper is declared. -/
def ofDecimal (configuration : Configuration) (entity : Entity) : List Code.Import :=
  if configuration.useDecimalLibrary && entity.usesScalar .decimal then
    [{ source := "decimal.js", binding := .named ["Decimal"] }]
  else []

/-- The specifier of the module that exports enums: the generated one, the configured one, or the
client. -/
def enumModule (configuration : Configuration) (layout : FileLayout) : String :=
  match configuration.enumFile with
  | some file => "./" ++ file
  | none => configuration.enumImport.getD layout.clientSpecifier

/-- The enums that an entity names. -/
def ofEnums (configuration : Configuration) (layout : FileLayout) (entity : Entity) :
    List Code.Import :=
  if entity.enumNames.isEmpty then []
  else [{ source := enumModule configuration layout, binding := .named entity.enumNames }]

/-- The names that a relation to an entity needs. -/
def relationSymbols (names : SchemaNames) (target : String) : List String :=
  [SchemaNames.completeInput target, SchemaNames.completeOutput target, names.related target]

/-- What the relations of an entity need of other entities. -/
def ofRelations (configuration : Configuration) (entity : Entity) : List Code.Import :=
  if configuration.relationMode.isEnabled && !entity.foreignTargets.isEmpty then
    [{ source := barrelSpecifier
       binding := .named
        (Text.nameSet
          (entity.foreignTargets.flatMap (relationSymbols (.ofConfiguration configuration)))) }]
  else []

/-- The validator library. -/
def ofValidators : Code.Import :=
  { source := "zod", binding := .named ["z"] }

/-- What a module imports besides the validator library, in the order of its collection. -/
def optional (configuration : Configuration) (layout : FileLayout) (entity : Entity) :
    List Code.Import :=
  ofHelpers configuration layout entity ++ ofDecimal configuration entity ++
    ofEnums configuration layout entity ++ ofRelations configuration entity

/-- The imports of an entity's module: the validator library, then the others in order. -/
def ofEntity (configuration : Configuration) (layout : FileLayout) (entity : Entity) :
    List Code.Import :=
  ofValidators ::
    (optional configuration layout entity).mergeSort fun first second =>
      (first.order second).isLE

end Imports
end EntitySchema
