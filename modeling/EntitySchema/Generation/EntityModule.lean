import EntitySchema.Generation.HelperSchemas
import EntitySchema.Generation.Imports
import EntitySchema.Generation.References
import EntitySchema.Generation.Relations

/-!
# Entity modules

The module of an entity is put together in stages.  Each stage adds its declarations, or nothing
where it does not apply.  A module names other entities but never looks at them, so an entity that
fails leaves all others as they are.
-/

namespace EntitySchema
namespace EntityModule

/-- How far the module of an entity has come. -/
inductive Stage
  | start
  | imports
  | jsonHelper
  | decimalHelper
  | baseSchema
  | relationArtifacts
  | done
  deriving DecidableEq, Repr

namespace Stage

/-- The stage after a stage. -/
def next? : Stage -> Option Stage
  | start => some imports
  | imports => some jsonHelper
  | jsonHelper => some decimalHelper
  | decimalHelper => some baseSchema
  | baseSchema => some relationArtifacts
  | relationArtifacts => some done
  | done => none

/-- All stages in order. -/
def all : List Stage :=
  [start, imports, jsonHelper, decimalHelper, baseSchema, relationArtifacts, done]

/-- The name of a stage. -/
def name : Stage -> String
  | start => "Start"
  | imports => "ImportsEmitted"
  | jsonHelper => "JsonHelperEmitted"
  | decimalHelper => "DecimalHelperEmitted"
  | baseSchema => "BaseSchemaEmitted"
  | relationArtifacts => "RelationArtifactsEmitted"
  | done => "Done"

end Stage

/-- The schema over the scalar fields of an entity. -/
def baseConstant (configuration : Configuration) (entity : Entity) : Code.Constant :=
  let options := FieldOptions.ofConfiguration configuration
  { exported := true
    name := options.names.base entity.name
    value := .object (entity.scalarFields.map (Field.property options .base))
    docs := (Documentation.ofText? entity.documentation).commentBlock }

/-- The statements that a stage adds to the module of an entity. -/
def stageStatements (configuration : Configuration) (entity : Entity) :
    Stage -> List Code.Statement
  | .start | .imports | .done => []
  | .jsonHelper =>
      if entity.usesScalar .json then HelperSchemas.json configuration.excludeJsonNull else []
  | .decimalHelper =>
      if configuration.useDecimalLibrary && entity.usesScalar .decimal then
        HelperSchemas.decimal
      else []
  | .baseSchema => [.constant (baseConstant configuration entity)]
  | .relationArtifacts =>
      if entity.hasRelatedSchema configuration then entity.relationStatements configuration
      else []

/-- The file name of the module of an entity. -/
def fileName (configuration : Configuration) (entity : String) : String :=
  configuration.fileCasing.apply entity

/-- The module of an entity, whatever its fields name. -/
def unchecked (configuration : Configuration) (layout : FileLayout) (entity : Entity) :
    Code.Module where
  fileName := fileName configuration entity.name
  imports := Imports.ofEntity configuration layout entity
  statements := Stage.all.flatMap (stageStatements configuration entity)

/-- The module of an entity whose fields name only what the data model has. -/
def ofEntity (configuration : Configuration) (layout : FileLayout) (model : DataModel)
    (entity : Entity) : Except EntityFailure Code.Module :=
  match entity.failure? model with
  | some failure => .error failure
  | none => .ok (unchecked configuration layout entity)

end EntityModule
end EntitySchema
