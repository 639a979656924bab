import EntitySchema.Proofs.ImportUse
import EntitySchema.Proofs.Reports
import EntitySchema.Proofs.Separators

/-!
# Lines of generated modules

Where no name, option, path or stored text holds a line feed, the texts of every generated module
stay on their lines, because documentation is read line by line.  Such a module is well spaced in
the style of its configuration.
-/

namespace EntitySchema

open Text (oneLine_append)
open Code

/-! ## Input on one line -/

/-- The texts among the options hold no line feed. -/
@[mk_iff]
structure Configuration.OneLine (configuration : Configuration) : Prop where
  modelSuffix : Text.OneLine configuration.modelSuffix
  imports : ∀ path ∈ configuration.imports, Text.OneLine path
  enumFile : ∀ file ∈ configuration.enumFile, Text.OneLine file
  enumImport : ∀ specifier ∈ configuration.enumImport, Text.OneLine specifier

instance (configuration : Configuration) : Decidable configuration.OneLine :=
  decidable_of_iff _ (Configuration.oneLine_iff configuration).symm

/-- The names in an entity hold no line feed. -/
@[mk_iff]
structure Entity.OneLine (entity : Entity) : Prop where
  name : Text.OneLine entity.name
  fields : ∀ field ∈ entity.fields, field.OneLine

instance (entity : Entity) : Decidable entity.OneLine :=
  decidable_of_iff _ (Entity.oneLine_iff entity).symm

/-- The names in an enum and the texts that are stored for its values hold no line feed. -/
@[mk_iff]
structure Enumeration.OneLine (enumeration : Enumeration) : Prop where
  name : Text.OneLine enumeration.name
  values : ∀ value ∈ enumeration.values, Text.OneLine value.name ∧ Text.OneLine value.wireText

instance (enumeration : Enumeration) : Decidable enumeration.OneLine :=
  decidable_of_iff _ (Enumeration.oneLine_iff enumeration).symm

/-- The names in a data model and the texts that are stored for its enums hold no line feed. -/
@[mk_iff]
structure DataModel.OneLine (model : DataModel) : Prop where
  entities : ∀ entity ∈ model.entities, entity.OneLine
  enums : ∀ enumeration ∈ model.enums, enumeration.OneLine

instance (model : DataModel) : Decidable model.OneLine :=
  decidable_of_iff _ (DataModel.oneLine_iff model).symm

/-- Whatever is configured, indentation is blank and no quote is a line feed. -/
theorem Code.Style.ofConfiguration_keepsLines (configuration : Configuration) :
    (Style.ofConfiguration configuration).KeepsLines := by
  refine ⟨Style.ofConfiguration_isBlank configuration, ?_⟩
  rw [Style.ofConfiguration]
  dsimp only
  split_ifs <;> decide

variable
  {configuration : Configuration}
  {layout : FileLayout}
  {model : DataModel}
  {entity : Entity}

/-! ## Statements of entity modules -/

/-- Documentation is shown line by line, so every line of its comment is one line. -/
theorem isLine_of_mem_commentBlock (documentation : Option String) :
    ∀ line ∈ (Documentation.ofText? documentation).commentBlock, IsLine line :=
  fun _ => Documentation.oneLine_of_mem_commentBlock

/-- Statements that are added under a condition keep their lines if they do when added. -/
theorem keepsLines_if
    {condition : Bool}
    {statements : List Statement}
    (keepLines : ∀ statement ∈ statements, statement.KeepsLines) :
    ∀ statement ∈ (if condition then statements else []), statement.KeepsLines := by
  split_ifs
  · exact keepLines
  · exact List.forall_mem_nil _

/-- Every entry of an object schema keeps its lines, whatever the field's documentation says. -/
theorem Field.OneLine.keepsLines_property
    {field : Field}
    (oneLine : field.OneLine)
    (ofConfiguration : configuration.OneLine)
    (schema : RelationSchema) :
    (field.property (.ofConfiguration configuration) schema).KeepsLines where
  docs := isLine_of_mem_commentBlock field.documentation
  name := oneLine.name
  value := oneLine.validator ofConfiguration.modelSuffix schema

namespace HelperSchemas

theorem internalConstant_keepsLines
    {name : String}
    {type : Option String}
    {value : Expression}
    (ofName : Text.OneLine name)
    (ofType : ∀ text ∈ type, Text.OneLine text)
    (ofValue : value.KeepsLines) :
    (internalConstant name type value).KeepsLines :=
  ⟨List.forall_mem_nil _, ofName, ofType, ofValue⟩

/-- The helper schema for JSON consists of fixed texts, whether or not it excludes null. -/
theorem json_keepsLines (excludeNull : Bool) :
    ∀ statement ∈ json excludeNull, statement.KeepsLines := by
  have literalType : Text.OneLine (literalType excludeNull) := by
    cases excludeNull <;> decide
  have literalValidator : Text.OneLine (Validator.text ⟨literalValidator excludeNull, []⟩) := by
    cases excludeNull <;> decide
  have jsonValidator : Text.OneLine (Validator.text ⟨jsonValidator, []⟩) := by decide
  simp only [json, List.forall_mem_cons]
  refine ⟨⟨by decide, by decide⟩, ⟨by decide, literalType⟩, ⟨by decide, by decide⟩,
    internalConstant_keepsLines (by decide) (by decide) literalValidator,
    internalConstant_keepsLines (by decide) (by decide) jsonValidator, List.forall_mem_nil _⟩

theorem decimal_keepsLines :
    ∀ statement ∈ decimal, statement.KeepsLines := by
  have lines : (Expression.verbatim decimalLines).KeepsLines :=
    (by decide : ∀ line ∈ decimalLines, IsLine line.2)
  simp only [decimal, List.forall_mem_cons]
  exact ⟨⟨by decide, by decide⟩, internalConstant_keepsLines (by decide) (by decide) lines,
    List.forall_mem_nil _⟩

end HelperSchemas

/-- The base schema keeps its lines, since the entry of every scalar field does. -/
theorem EntityModule.baseConstant_keepsLines
    (oneLine : entity.OneLine)
    (ofConfiguration : configuration.OneLine) :
    (baseConstant configuration entity).KeepsLines where
  docs := isLine_of_mem_commentBlock entity.documentation
  name := SchemaNames.oneLine_schema ofConfiguration.modelSuffix oneLine.name .base
  type := by
    rintro type ⟨⟩
  value := by
    change ∀ property ∈ entity.scalarFields.map _, Property.KeepsLines property
    rw [List.forall_mem_map]
    intro field member
    exact (oneLine.fields field (List.mem_of_mem_filter member)).keepsLines_property
      ofConfiguration .base

namespace Entity

/-- A companion type keeps its lines, as the names of companion types hold no line feed. -/
theorem companionInterface_keepsLines
    (oneLine : entity.OneLine)
    {companion : String -> String}
    (ofCompanion : ∀ name, Text.OneLine name → Text.OneLine (companion name))
    {base : String}
    (ofBase : Text.OneLine base) :
    (entity.companionInterface companion base).KeepsLines where
  name := ofCompanion entity.name oneLine.name
  bases := List.forall_mem_singleton.mpr ofBase
  members := by
    intro member known
    obtain ⟨field, related, made⟩ := List.mem_filterMap.mp known
    have ofField := oneLine.fields field (List.mem_of_mem_filter related)
    obtain ⟨target, leads, rfl⟩ := Option.map_eq_some_iff.mp made
    refine ⟨ofField.name, ?_⟩
    simp only [Field.companionType, oneLine_append]
    refine ⟨⟨ofCompanion target (ofField.target target leads), ?_⟩, ?_⟩
    · split_ifs <;> decide
    · split_ifs <;> decide

theorem relatedConstant_keepsLines
    (oneLine : entity.OneLine)
    (ofConfiguration : configuration.OneLine) :
    (entity.relatedConstant configuration).KeepsLines where
  docs := by
    rintro line ⟨⟩
  name := SchemaNames.oneLine_schema ofConfiguration.modelSuffix oneLine.name .related
  type := by
    rintro type ⟨⟩
    simp only [oneLine_append]
    exact ⟨⟨⟨⟨by decide, SchemaNames.oneLine_completeOutput oneLine.name⟩, by decide⟩,
      SchemaNames.oneLine_completeInput oneLine.name⟩, by decide⟩
  value := by
    refine ⟨SchemaNames.oneLine_schema ofConfiguration.modelSuffix oneLine.name .base, ?_⟩
    rw [List.forall_mem_map]
    intro field member
    exact (oneLine.fields field (List.mem_of_mem_filter member)).keepsLines_property
      ofConfiguration .related

/-- The comment before a relation-aware schema names the schema on one of its lines. -/
theorem relatedSchemaComment_isLine
    {schema : String}
    (ofSchema : Text.OneLine schema) :
    ∀ line ∈ relatedSchemaComment schema, IsLine line := by
  have named : Text.OneLine
      (" * " ++ schema ++ " contains all relations on your model in addition to the scalars") := by
    simp only [oneLine_append]
    exact ⟨⟨by decide, ofSchema⟩, by decide⟩
  simp only [relatedSchemaComment, List.forall_mem_cons]
  exact ⟨by decide, ⟨named, by simp⟩, by decide, by decide, by decide, List.forall_mem_nil _⟩

/-- All that is generated for relations keeps its lines. -/
theorem relationStatements_keepsLines
    (oneLine : entity.OneLine)
    (ofConfiguration : configuration.OneLine) :
    ∀ statement ∈ entity.relationStatements configuration, statement.KeepsLines := by
  have ofSchema (schema : RelationSchema) :
      Text.OneLine ((SchemaNames.ofConfiguration configuration).schema schema entity.name) :=
    SchemaNames.oneLine_schema ofConfiguration.modelSuffix oneLine.name schema
  have ofBase {word : String} (ofWord : Text.OneLine word) :
      Text.OneLine
        (word ++ (SchemaNames.ofConfiguration configuration).base entity.name ++ ">") := by
    simp only [oneLine_append]
    exact ⟨⟨ofWord, ofSchema .base⟩, by decide⟩
  simp only [relationStatements, List.forall_mem_append, List.forall_mem_cons]
  refine ⟨⟨⟨?_, ?_, ?_, List.forall_mem_nil _⟩, ?_⟩, ?_, List.forall_mem_nil _⟩
  · exact companionInterface_keepsLines oneLine (fun _ => SchemaNames.oneLine_completeInput)
      (ofBase (by decide))
  · exact companionInterface_keepsLines oneLine (fun _ => SchemaNames.oneLine_completeOutput)
      (ofBase (by decide))
  · exact ⟨List.cons_ne_nil _ _, relatedSchemaComment_isLine (ofSchema .related)⟩
  · exact keepsLines_if (List.forall_mem_singleton.mpr ⟨by decide, by decide⟩)
  · exact relatedConstant_keepsLines oneLine ofConfiguration

end Entity

/-! ## Modules -/

/-- Every import keeps its lines: its specifier is fixed, configured or made from paths, and its
names come from the data model. -/
theorem Imports.ofEntity_keepsLines
    (oneLine : entity.OneLine)
    (ofConfiguration : configuration.OneLine)
    (ofLayout : layout.OneLine) :
    ∀ declaration ∈ ofEntity configuration layout entity, declaration.KeepsLines := by
  intro declaration member
  rw [mem_ofEntity, mem_ofHelpers, mem_ofDecimal, mem_ofEnums, mem_ofRelations] at member
  rcases member with rfl | ⟨path, configured, -, rfl⟩ | ⟨-, rfl⟩ | ⟨-, rfl⟩ | ⟨-, rfl⟩
  · exact ⟨by decide, by decide⟩
  · exact ⟨ofLayout.schemaSpecifier (ofConfiguration.imports path configured),
      List.forall_mem_singleton.mpr (by decide)⟩
  · exact ⟨by decide, by decide⟩
  · refine ⟨?_, ?_⟩
    · rw [enumModule]
      cases configured : configuration.enumFile with
      | some file =>
          exact (oneLine_append _ _).mpr ⟨by decide, ofConfiguration.enumFile file configured⟩
      | none =>
          cases given : configuration.enumImport with
          | some specifier => exact ofConfiguration.enumImport specifier given
          | none => exact ofLayout.clientSpecifier
    · intro name named
      obtain ⟨field, known, names⟩ := Entity.mem_enumNames.mp named
      exact (oneLine.fields field known).enumName name names
  · refine ⟨(by decide : Text.OneLine barrelSpecifier), ?_⟩
    intro symbol needed
    obtain ⟨target, foreign, known⟩ := mem_foreignSymbols.mp needed
    obtain ⟨⟨field, declared, leads⟩, -⟩ := Entity.mem_foreignTargets.mp foreign
    have ofTarget := (oneLine.fields field declared).target target leads
    simp only [relationSymbols, List.mem_cons, List.not_mem_nil, or_false] at known
    rcases known with rfl | rfl | rfl
    · exact SchemaNames.oneLine_completeInput ofTarget
    · exact SchemaNames.oneLine_completeOutput ofTarget
    · exact SchemaNames.oneLine_schema ofConfiguration.modelSuffix ofTarget .related

/-- Whatever a stage adds keeps its lines. -/
theorem EntityModule.stageStatements_keepsLines
    (oneLine : entity.OneLine)
    (ofConfiguration : configuration.OneLine)
    (stage : Stage) :
    ∀ statement ∈ stageStatements configuration entity stage, statement.KeepsLines := by
  cases stage with
  | start | imports | done => exact List.forall_mem_nil _
  | jsonHelper =>
      exact keepsLines_if (HelperSchemas.json_keepsLines configuration.excludeJsonNull)
  | decimalHelper => exact keepsLines_if HelperSchemas.decimal_keepsLines
  | baseSchema =>
      exact List.forall_mem_singleton.mpr (baseConstant_keepsLines oneLine ofConfiguration)
  | relationArtifacts =>
      exact keepsLines_if (Entity.relationStatements_keepsLines oneLine ofConfiguration)

theorem EntityModule.unchecked_keepsLines
    (oneLine : entity.OneLine)
    (ofConfiguration : configuration.OneLine)
    (ofLayout : layout.OneLine) :
    (unchecked configuration layout entity).KeepsLines where
  imports := Imports.ofEntity_keepsLines oneLine ofConfiguration ofLayout
  statements := by
    intro statement member
    obtain ⟨stage, -, added⟩ := List.mem_flatMap.mp member
    exact stageStatements_keepsLines oneLine ofConfiguration stage statement added

namespace Generation

/-- The module of enums keeps its lines, the texts that are stored for values included. -/
theorem enumModule_keepsLines
    {enums : List Enumeration}
    (oneLine : ∀ enumeration ∈ enums, enumeration.OneLine)
    (file : String) :
    (enumModule file enums).KeepsLines where
  imports := List.forall_mem_nil _
  statements := by
    change ∀ statement ∈ enums.map _, Statement.KeepsLines statement
    rw [List.forall_mem_map]
    intro enumeration member
    refine ⟨isLine_of_mem_commentBlock enumeration.documentation,
      (oneLine enumeration member).name, ?_, ?_⟩
    · rintro type ⟨⟩
    · change ∀ entry ∈ enumeration.values.map _, _
      rw [List.forall_mem_map]
      exact (oneLine enumeration member).values

theorem barrel_keepsLines
    {entities : List String}
    (oneLine : ∀ name ∈ entities, Text.OneLine name)
    (ofConfiguration : configuration.OneLine) :
    (barrel configuration entities).KeepsLines where
  imports := List.forall_mem_nil _
  statements := by
    rw [barrel, List.forall_mem_append, List.forall_mem_map, List.forall_mem_map]
    refine ⟨?_, ?_⟩
    · intro name member
      exact (oneLine_append _ _).mpr
        ⟨by decide, configuration.fileCasing.oneLine_apply (oneLine name member)⟩
    · intro file member
      exact (oneLine_append _ _).mpr
        ⟨by decide, ofConfiguration.enumFile file (Option.mem_toList.mp member)⟩

/-- Every module of a run keeps its lines. -/
theorem run_keepsLines
    (ofConfiguration : configuration.OneLine)
    (ofLayout : layout.OneLine)
    (ofModel : model.OneLine) :
    ∀ unit ∈ (run configuration layout model).modules, unit.KeepsLines := by
  have compiled : ∀ entity ∈ model.compiled, entity.OneLine :=
    fun entity member => ofModel.entities entity (DataModel.mem_compiled.mp member).1
  simp only [modules_run, List.forall_mem_append, List.forall_mem_map, List.forall_mem_singleton]
  refine ⟨⟨?_, ?_⟩, ?_⟩
  · intro entity member
    exact EntityModule.unchecked_keepsLines (compiled entity member) ofConfiguration ofLayout
  · intro file _
    exact enumModule_keepsLines ofModel.enums file
  · refine barrel_keepsLines ?_ ofConfiguration
    rw [List.forall_mem_map]
    exact fun entity member => (compiled entity member).name

/-- Every module of a run is well spaced in the style of its configuration: only a module without
imports and statements has no text, the first line of any other is not empty, its text ends with
exactly one line feed, and its empty lines are the separators, no two of which follow each
other. -/
theorem modules_well_spaced
    (ofConfiguration : configuration.OneLine)
    (ofLayout : layout.OneLine)
    (ofModel : model.OneLine)
    {unit : Module}
    (member : unit ∈ (run configuration layout model).modules) :
    unit.IsWellSpaced (.ofConfiguration configuration) :=
  (run_keepsLines ofConfiguration ofLayout ofModel unit member).isWellSpaced
    (Style.ofConfiguration_keepsLines configuration)

/-- An entity with a helper schema, a relation to itself and documentation with empty lines. -/
def journalEntry : Entity where
  name := "Entry"
  documentation := some "An entry\n\nof the journal\n"
  fields :=
    [ { name := "data"
        kind := .scalar .json
        documentation := some "\nFree form\n\n@zod.describe(1)\n" },
      { name := "state", kind := .enumeration "State" },
      { name := "reply", kind := .relation "Entry", isRequired := false } ]

/-- A data model with that entity and with an enum that has no values. -/
def journal : DataModel where
  entities := [journalEntry]
  enums := [{ name := "State", values := [], documentation := some "\n\nNone yet" }]

/-- Options that ask for a module of enums and for lines that are not indented. -/
def journalConfiguration : Configuration :=
  { enumFile := some "states", indentSize := 0, semicolons := .remove }

/-- Places for the data model, the generated modules and the client. -/
def journalLayout : FileLayout :=
  ⟨"/app/model/schema", "/app/zod", "/app/client"⟩

theorem modules_well_spaced_journal :
    journalConfiguration.OneLine ∧ journalLayout.OneLine ∧ journal.OneLine ∧
      EntityModule.unchecked journalConfiguration journalLayout journalEntry ∈
        (run journalConfiguration journalLayout journal).modules ∧
      (EntityModule.unchecked journalConfiguration journalLayout journalEntry).IsWellSpaced
        (.ofConfiguration journalConfiguration) := by
  have ofConfiguration : journalConfiguration.OneLine := by decide
  have ofLayout : journalLayout.OneLine := by decide
  have ofModel : journal.OneLine := by decide
  have member : EntityModule.unchecked journalConfiguration journalLayout journalEntry ∈
      (run journalConfiguration journalLayout journal).modules := by
    have compiled : journalEntry ∈ journal.compiled :=
      DataModel.mem_compiled.mpr ⟨List.mem_singleton_self _, by decide⟩
    rw [modules_run]
    exact List.mem_append_left _ (List.mem_append_left _ (List.mem_map_of_mem compiled))
  exact ⟨ofConfiguration, ofLayout, ofModel, member,
    modules_well_spaced ofConfiguration ofLayout ofModel member⟩

end Generation
end EntitySchema
