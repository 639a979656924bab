import EntitySchema.Generation.EntityModule
import EntitySchema.Proofs.NameSets

/-!
# Names that entity modules declare

A module declares the names of its helper schemas, which stay inside it, and after them the names
that other modules see: the base schema and, where relations are followed, the companion types and
the relation-aware schema.
-/

namespace EntitySchema

namespace Code

/-- The name of an exported constant or of an interface. -/
def Statement.exportedName? : Statement -> Option String
  | constant declaration => if declaration.exported then some declaration.name else none
  | interface declaration => some declaration.name
  | lineComment _ | blockComment _ | typeAlias _ _ _ | exportAll _ => none

namespace Module

/-- The names of the exported constants and of the interfaces of a module. -/
def exportedNames (unit : Module) : List String :=
  unit.statements.filterMap Statement.exportedName?

/-- The names that the imports of a module bring into scope. -/
def importedNames (unit : Module) : List String :=
  unit.imports.flatMap Import.symbols

/-- All names that a module binds, each as often as it is bound. -/
def boundNames (unit : Module) : List String :=
  unit.importedNames ++ unit.declaredNames

end Module
end Code

namespace Entity

/-- The names that the module of an entity exports. -/
def exports (configuration : Configuration) (entity : Entity) : List String :=
  let names := SchemaNames.ofConfiguration configuration
  names.base entity.name ::
    (if entity.hasRelatedSchema configuration then
      [ SchemaNames.completeInput entity.name,
        SchemaNames.completeOutput entity.name,
        names.related entity.name ]
    else [])

/-- The names of the schemas of an entity. -/
def schemas (configuration : Configuration) (entity : Entity) : List String :=
  let names := SchemaNames.ofConfiguration configuration
  names.base entity.name ::
    (if entity.hasRelatedSchema configuration then [names.related entity.name] else [])

/-- The names of the companion types of an entity. -/
def companions (configuration : Configuration) (entity : Entity) : List String :=
  if entity.hasRelatedSchema configuration then
    [SchemaNames.completeInput entity.name, SchemaNames.completeOutput entity.name]
  else []

/-- The names that helper schemas declare in the module of an entity. -/
def helperNames (configuration : Configuration) (entity : Entity) : List String :=
  (if entity.usesScalar .json then ["Literal", "Json", "literalSchema", jsonSchemaName] else []) ++
    (if configuration.useDecimalLibrary && entity.usesScalar .decimal then [decimalSchemaName]
      else [])

variable
  {configuration : Configuration}
  {entity : Entity}
  {name : String}

/-- An entity exports its schemas and its companion types. -/
theorem exports_perm :
    (entity.exports configuration).Perm
      (entity.schemas configuration ++ entity.companions configuration) := by
  rw [exports, schemas, companions]
  split_ifs
  · refine List.Perm.cons _ ?_
    exact @List.perm_append_comm _ [_, _] [_]
  · simp

theorem mem_exports :
    name ∈ entity.exports configuration ↔
      name ∈ entity.schemas configuration ∨ name ∈ entity.companions configuration := by
  rw [exports_perm.mem_iff, List.mem_append]

theorem mem_companions :
    name ∈ entity.companions configuration ↔
      entity.hasRelatedSchema configuration ∧
        (name = SchemaNames.completeInput entity.name ∨
          name = SchemaNames.completeOutput entity.name) := by
  rw [companions]
  split_ifs with followed <;> simp [followed]

/-- An entity whose relations are followed exports all that a relation to it needs. -/
theorem relationSymbols_subset_exports
    (followed : entity.hasRelatedSchema configuration) :
    Imports.relationSymbols (.ofConfiguration configuration) entity.name ⊆
      entity.exports configuration := by
  rw [exports, if_pos followed]
  exact List.subset_cons_self _ _

end Entity

namespace EntityModule

variable
  {configuration : Configuration}
  {layout : FileLayout}
  {model : DataModel}
  {entity : Entity}

/-- An entity compiles when its fields name nothing that is missing. -/
theorem ofEntity_eq_ok_iff
    {unit : Code.Module} :
    ofEntity configuration layout model entity = .ok unit ↔
      entity.failure? model = none ∧ unchecked configuration layout entity = unit := by
  rw [ofEntity]
  cases entity.failure? model <;> simp

namespace Stage

/-- A stage and all that come after it, up to one that is followed by none. -/
inductive Walk : Stage -> List Stage -> Prop
  | last {stage : Stage} : stage.next? = none -> Walk stage [stage]
  | step {stage next : Stage} {stages : List Stage} :
      stage.next? = some next -> Walk next stages -> Walk stage (stage :: stages)

theorem Walk.unique
    {stage : Stage}
    {stages others : List Stage}
    (walk : Walk stage stages)
    (other : Walk stage others) :
    stages = others := by
  induction walk generalizing others with
  | last ends =>
      cases other with
      | last _ => rfl
      | step follows _ =>
          rw [ends] at follows
          cases follows
  | step follows _ inductionHypothesis =>
      cases other with
      | last ends =>
          rw [ends] at follows
          cases follows
      | step otherFollows rest =>
          obtain rfl := Option.some.inj (follows.symm.trans otherFollows)
          rw [inductionHypothesis rest]

/-- From the start, stage by stage, a module goes through all stages in order. -/
theorem walk_start_iff
    {stages : List Stage} :
    Walk start stages ↔ stages = all := by
  have whole : Walk start all :=
    .step rfl (.step rfl (.step rfl (.step rfl (.step rfl (.step rfl (.last rfl))))))
  constructor
  · intro walk
    exact walk.unique whole
  · rintro rfl
    exact whole

end Stage

/-- The statements of a module are those that are added on the way from the start to the end. -/
theorem statements_of_walk
    {stages : List Stage}
    (walk : Stage.Walk .start stages) :
    (unchecked configuration layout entity).statements =
      stages.flatMap (stageStatements configuration entity) := by
  rw [unchecked, Stage.walk_start_iff.mp walk]

/-- The stages that add statements, in order. -/
theorem statements_unchecked :
    (unchecked configuration layout entity).statements =
      stageStatements configuration entity .jsonHelper ++
        (stageStatements configuration entity .decimalHelper ++
          (stageStatements configuration entity .baseSchema ++
            stageStatements configuration entity .relationArtifacts)) := by
  rw [statements_of_walk (Stage.walk_start_iff.mpr rfl)]
  simp [Stage.all, stageStatements]

/-- The names that the helper stages declare. -/
theorem helperStages_declaredNames :
    (stageStatements configuration entity .jsonHelper ++
        stageStatements configuration entity .decimalHelper).filterMap
        Code.Statement.declaredName? =
      entity.helperNames configuration := by
  rw [List.filterMap_append, Entity.helperNames, stageStatements, stageStatements]
  congr 1 <;> split_ifs <;> rfl

/-- The helper stages export nothing. -/
theorem helperStages_exportedNames :
    (stageStatements configuration entity .jsonHelper ++
        stageStatements configuration entity .decimalHelper).filterMap
        Code.Statement.exportedName? = [] := by
  rw [List.filterMap_append, stageStatements, stageStatements]
  split_ifs <;> rfl

/-- A view of exported statements sees only the stages of the schemas. -/
theorem filterMap_statements
    {view : Code.Statement -> Option α}
    (exportedOnly : ∀ statement : Code.Statement,
      statement.exportedName? = none → view statement = none) :
    (unchecked configuration layout entity).statements.filterMap view =
      (stageStatements configuration entity .baseSchema ++
        stageStatements configuration entity .relationArtifacts).filterMap view := by
  have hidden :
      (stageStatements configuration entity .jsonHelper ++
        stageStatements configuration entity .decimalHelper).filterMap view = [] := by
    rw [List.filterMap_eq_nil_iff]
    intro statement member
    have inside := List.filterMap_eq_nil_iff.mp helperStages_exportedNames statement member
    exact exportedOnly statement inside
  rw [statements_unchecked, ← List.append_assoc, List.filterMap_append, hidden, List.nil_append]

/-- The names that the stages of the schemas declare. -/
theorem schemaStages_declaredNames :
    (stageStatements configuration entity .baseSchema ++
        stageStatements configuration entity .relationArtifacts).filterMap
        Code.Statement.declaredName? =
      entity.exports configuration := by
  simp only [stageStatements, Entity.exports, Entity.relationStatements]
  split_ifs <;> rfl

/-- The stages of the schemas export all that they declare. -/
theorem exportedName?_of_mem_schemaStages :
    ∀ statement ∈ stageStatements configuration entity .baseSchema ++
        stageStatements configuration entity .relationArtifacts,
      statement.exportedName? = statement.declaredName? := by
  rw [List.forall_mem_append]
  refine ⟨List.forall_mem_singleton.mpr rfl, ?_⟩
  simp only [stageStatements, Entity.relationStatements]
  split_ifs <;>
    simp [Code.Statement.exportedName?, Code.Statement.declaredName?, Entity.relatedConstant]

/-- A module declares its helper schemas and what it exports. -/
theorem declaredNames_unchecked :
    (unchecked configuration layout entity).declaredNames =
      entity.helperNames configuration ++ entity.exports configuration := by
  rw [Code.Module.declaredNames, statements_unchecked, ← List.append_assoc,
    List.filterMap_append, helperStages_declaredNames, schemaStages_declaredNames]

/-- Helper schemas are not exported; everything else is. -/
theorem exportedNames_unchecked :
    (unchecked configuration layout entity).exportedNames = entity.exports configuration := by
  rw [Code.Module.exportedNames, filterMap_statements fun _ => id,
    List.filterMap_congr exportedName?_of_mem_schemaStages, schemaStages_declaredNames]

end EntityModule
end EntitySchema
