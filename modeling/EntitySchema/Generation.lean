import EntitySchema.Generation.EntityModule

/-!
# Generation

A run compiles every entity by itself.  It yields the modules of the entities that compile, the
module of enums where one is configured, and the barrel, which re-exports all of them.  Entities
that do not compile are reported.
-/

namespace EntitySchema
namespace Generation

/-- The constant that holds the values of an enum. -/
def enumConstant (enumeration : Enumeration) : Code.Constant where
  exported := true
  name := enumeration.name
  value := .constObject (enumeration.values.map fun value => (value.name, value.wireText))
  docs := (Documentation.ofText? enumeration.documentation).commentBlock

/-- The module of enums, with one constant for each enum. -/
def enumModule (fileName : String) (enums : List Enumeration) : Code.Module where
  fileName := fileName
  statements := enums.map fun enumeration => .constant (enumConstant enumeration)

/-- The file name of the barrel. -/
def barrelFile : String := "index"

/-- The re-export of a module in the same directory. -/
def reExport (fileName : String) : Code.Statement :=
  .exportAll ("./" ++ fileName)

/-- The barrel over the modules of the given entities and over the module of enums. -/
def barrel (configuration : Configuration) (entities : List String) : Code.Module where
  fileName := barrelFile
  statements :=
    (entities.map fun entity => reExport (EntityModule.fileName configuration entity)) ++
      configuration.enumFile.toList.map reExport

/-- The outcome of one entity, with the entity's name. -/
def outcomes (configuration : Configuration) (layout : FileLayout) (model : DataModel) :
    List (Entity × Except EntityFailure Code.Module) :=
  model.entities.map fun entity =>
    (entity, EntityModule.ofEntity configuration layout model entity)

/-- The module of an outcome. -/
def module? : Entity × Except EntityFailure Code.Module -> Option Code.Module
  | (_, .ok unit) => some unit
  | (_, .error _) => none

/-- The failure of an outcome. -/
def failure? : Entity × Except EntityFailure Code.Module -> Option EntityFailure
  | (_, .ok _) => none
  | (_, .error failure) => some failure

/-- The name of the entity of an outcome that has a module. -/
def compiledName? : Entity × Except EntityFailure Code.Module -> Option String
  | (entity, .ok _) => some entity.name
  | (_, .error _) => none

/-- What a run yields. -/
structure Report where
  /-- The modules of the entities, the module of enums and the barrel. -/
  modules : List Code.Module
  /-- The failures in the order of the entities. -/
  failures : List EntityFailure
  deriving DecidableEq, Repr

/-- Whether every entity has a module. -/
def Report.isSuccess (report : Report) : Bool :=
  report.failures.isEmpty

/-- Compile a data model. -/
def run (configuration : Configuration) (layout : FileLayout) (model : DataModel) : Report :=
  let outcomes := outcomes configuration layout model
  { modules :=
      outcomes.filterMap module? ++
        configuration.enumFile.toList.map (fun file => enumModule file model.enums) ++
          [barrel configuration (outcomes.filterMap compiledName?)]
    failures := outcomes.filterMap failure? }

/-! ## Notices -/

/-- What is logged while a data model is compiled. -/
inductive Notice
  /-- A field has a validator that accepts anything. -/
  | unmapped (field : String) (type : ScalarType)
  /-- An entity has no module. -/
  | failed (failure : EntityFailure)
  deriving DecidableEq, Repr

/-- What is logged about the outcome of an entity. -/
def outcomeNotices : Entity × Except EntityFailure Code.Module -> List Notice
  | (_, .error failure) => [.failed failure]
  | (entity, .ok _) =>
      entity.scalarFields.filterMap fun field =>
        field.unmappedType?.map (Notice.unmapped field.name)

/-- What is logged while a data model is compiled, in order. -/
def notices (configuration : Configuration) (layout : FileLayout) (model : DataModel) :
    List Notice :=
  (outcomes configuration layout model).flatMap outcomeNotices

end Generation
end EntitySchema
