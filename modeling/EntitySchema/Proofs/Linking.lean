import EntitySchema.Proofs.CompanionNames
import EntitySchema.Proofs.ImportedNames
import EntitySchema.Proofs.Reports

/-!
# Linking through the barrel

A module imports the names of related entities from the barrel.  An entity without relations of its
own does not export these names, so a relation that leads to it in one direction only is left
dangling, unless the names happen to be exported for another reason.
-/

namespace EntitySchema

/-- The names that an import needs its module to export.  A whole module can always be imported. -/
def Code.Import.required (declaration : Import) : List String :=
  match declaration.binding with
  | .named symbols => symbols
  | .whole _ => []

/-- User helpers are imported as a whole. -/
theorem Imports.required_ofHelpers
    {configuration : Configuration}
    {layout : FileLayout}
    {entity : Entity}
    {declaration : Code.Import}
    (helpers : declaration ∈ ofHelpers configuration layout entity) :
    declaration.required = [] := by
  rw [ofHelpers] at helpers
  split at helpers
  · split_ifs at helpers
    · rw [List.mem_singleton.mp helpers]
      rfl
    · cases helpers
  · cases helpers

/-- The names that a module needs another module to export. -/
def Code.Module.namesFrom (source : String) (unit : Module) : List String :=
  (unit.imports.filter fun declaration => declaration.source = source).flatMap Import.required

namespace Generation

/-- Every name that a module imports from the barrel is one that the barrel offers. -/
def Report.Linked (report : Report) : Prop :=
  ∀ unit ∈ report.modules, ∀ name ∈ unit.namesFrom Imports.barrelSpecifier,
    name ∈ report.exportedNames

instance (report : Report) : Decidable report.Linked :=
  inferInstanceAs (Decidable (∀ unit ∈ report.modules, _))

/-- The exported names that depend on casing, affixes and enums: those of schemas and of generated
enums. -/
def schemaNames (configuration : Configuration) (model : DataModel) : List String :=
  model.compiled.flatMap (Entity.schemas configuration) ++ generatedEnums configuration model

/-- An entity of the given name has relations. -/
def HasRelatedEntity (model : DataModel) (target : String) : Prop :=
  ∃ entity ∈ model.compiled, entity.name = target ∧ entity.hasRelations

/-- The names that a relation to an entity needs happen to be those of other declarations. -/
def HasStandIns (configuration : Configuration) (model : DataModel) (target : String) : Prop :=
  SchemaNames.completeInput target ∈ schemaNames configuration model ∧
    SchemaNames.completeOutput target ∈ schemaNames configuration model ∧
    (SchemaNames.ofConfiguration configuration).related target ∈ offeredNames configuration model

instance (model : DataModel) (target : String) : Decidable (HasRelatedEntity model target) :=
  inferInstanceAs (Decidable (∃ entity ∈ model.compiled, _))

instance (configuration : Configuration) (model : DataModel) (target : String) :
    Decidable (HasStandIns configuration model target) :=
  inferInstanceAs (Decidable (_ ∧ _))

variable
  {configuration : Configuration}
  {layout : FileLayout}
  {model : DataModel}
  {entity : Entity}
  {target name : String}

/-- What is exported is a schema, an enum or a companion type. -/
theorem mem_offeredNames :
    name ∈ offeredNames configuration model ↔
      name ∈ schemaNames configuration model ∨
        ∃ entity ∈ model.compiled, name ∈ entity.companions configuration := by
  simp only [offeredNames, schemaNames, List.mem_append, List.mem_flatMap, Entity.mem_exports,
    and_or_left, exists_or]
  exact or_right_comm

theorem schemaNames_subset_offeredNames :
    schemaNames configuration model ⊆ offeredNames configuration model := by
  intro name schema
  exact mem_offeredNames.mpr (.inl schema)

theorem exports_subset_offeredNames
    (compiles : entity ∈ model.compiled) :
    entity.exports configuration ⊆ offeredNames configuration model := by
  intro name exported
  exact List.mem_append_left _ (List.mem_flatMap.mpr ⟨entity, compiles, exported⟩)

/-- A companion type that is exported as such belongs to an entity with relations. -/
theorem HasRelatedEntity.of_companion
    (compiles : entity ∈ model.compiled)
    (companion :
      SchemaNames.completeInput target ∈ entity.companions configuration ∨
        SchemaNames.completeOutput target ∈ entity.companions configuration) :
    HasRelatedEntity model target := by
  rw [Entity.mem_companions, Entity.mem_companions, ← and_or_left] at companion
  obtain ⟨followed, named⟩ := companion
  have related : entity.hasRelations := (Bool.and_eq_true_iff.mp followed).2
  refine ⟨entity, compiles, ?_, related⟩
  rcases named with (input | mixed) | mixed | output
  · exact (SchemaNames.completeInput_injective input).symm
  · exact absurd mixed (SchemaNames.completeInput_ne_completeOutput _ _)
  · exact absurd mixed.symm (SchemaNames.completeInput_ne_completeOutput _ _)
  · exact (SchemaNames.completeOutput_injective output).symm

/-- All that a relation to an entity needs is exported when the entity has relations of its own, or
when other declarations have the names. -/
theorem relationSymbols_subset_offeredNames_iff
    (enabled : configuration.relationMode.isEnabled) :
    Imports.relationSymbols (.ofConfiguration configuration) target ⊆
        offeredNames configuration model ↔
      HasRelatedEntity model target ∨ HasStandIns configuration model target := by
  constructor
  · intro offered
    rw [Imports.relationSymbols, List.cons_subset, List.cons_subset, List.cons_subset] at offered
    obtain ⟨input, output, related, -⟩ := offered
    by_cases followed : HasRelatedEntity model target
    · exact .inl followed
    -- Without such an entity, neither companion name can come from a companion type.
    · refine .inr ⟨?_, ?_, related⟩
      · refine (mem_offeredNames.mp input).resolve_right ?_
        rintro ⟨entity, compiles, companion⟩
        exact followed (.of_companion compiles (.inl companion))
      · refine (mem_offeredNames.mp output).resolve_right ?_
        rintro ⟨entity, compiles, companion⟩
        exact followed (.of_companion compiles (.inr companion))
  · rintro (⟨entity, compiles, rfl, related⟩ | ⟨input, output, related⟩)
    · have followed : entity.hasRelatedSchema configuration :=
        Bool.and_eq_true_iff.mpr ⟨enabled, related⟩
      exact List.Subset.trans (Entity.relationSymbols_subset_exports followed)
        (exports_subset_offeredNames compiles)
    · rw [Imports.relationSymbols, List.cons_subset, List.cons_subset, List.cons_subset]
      exact ⟨schemaNames_subset_offeredNames input, schemaNames_subset_offeredNames output, related,
        List.nil_subset _⟩

/-- A module imports from the barrel what its relations need, and its enums where they come from
there. -/
theorem mem_namesFrom_unchecked :
    name ∈ (EntityModule.unchecked configuration layout entity).namesFrom
        Imports.barrelSpecifier ↔
      (configuration.relationMode.isEnabled ∧ name ∈ Imports.foreignSymbols configuration entity) ∨
        (Imports.enumModule configuration layout = Imports.barrelSpecifier ∧
          name ∈ entity.enumNames) := by
  have inImports :
      name ∈ (EntityModule.unchecked configuration layout entity).namesFrom
          Imports.barrelSpecifier ↔
        ∃ declaration ∈ Imports.ofEntity configuration layout entity,
          declaration.source = Imports.barrelSpecifier ∧ name ∈ declaration.required := by
    simp [Code.Module.namesFrom, EntityModule.unchecked, and_assoc]
  rw [inImports]
  constructor
  · rintro ⟨declaration, member, source, required⟩
    rw [Imports.mem_ofEntity] at member
    rcases member with rfl | helpers | decimal | enums | relations
    · exact absurd source (by decide)
    · rw [Imports.required_ofHelpers helpers] at required
      cases required
    · rw [(Imports.mem_ofDecimal.mp decimal).2] at source
      exact absurd source (by decide)
    · obtain ⟨-, rfl⟩ := Imports.mem_ofEnums.mp enums
      exact .inr ⟨source, required⟩
    · obtain ⟨⟨enabled, -⟩, rfl⟩ := Imports.mem_ofRelations.mp relations
      exact .inl ⟨enabled, required⟩
  · rintro (⟨enabled, needed⟩ | ⟨source, used⟩)
    · have foreign : entity.foreignTargets ≠ [] := by
        obtain ⟨target, member, -⟩ := Imports.mem_foreignSymbols.mp needed
        exact List.ne_nil_of_mem member
      exact ⟨_, Imports.relationImport_mem_ofEntity enabled foreign, rfl, needed⟩
    · exact ⟨_, Imports.enumImport_mem_ofEntity (List.ne_nil_of_mem used), source, used⟩

/-- Only the modules of entities import anything. -/
theorem linked_run_iff_entities :
    (run configuration layout model).Linked ↔
      ∀ entity ∈ model.compiled,
        ∀ name ∈ (EntityModule.unchecked configuration layout entity).namesFrom
          Imports.barrelSpecifier, name ∈ offeredNames configuration model := by
  have enums (file : String) : (enumModule file model.enums).namesFrom
      Imports.barrelSpecifier = [] := rfl
  have index : (barrel configuration (model.compiled.map Entity.name)).namesFrom
      Imports.barrelSpecifier = [] := rfl
  rw [Report.Linked, exportedNames_run, modules_run]
  simp only [List.forall_mem_append, List.forall_mem_map, List.forall_mem_singleton, enums, index,
    List.not_mem_nil, false_imp_iff, implies_true, and_true]

/-- A generated module of enums offers every enum that a compiled entity names. -/
theorem enumNames_subset_offeredNames
    (generated : configuration.enumFile ≠ none)
    (compiles : entity ∈ model.compiled) :
    entity.enumNames ⊆ offeredNames configuration model := by
  intro name used
  have present : name ∈ model.enums.map Enumeration.name :=
    (Entity.failure?_eq_none_iff.mp (DataModel.mem_compiled.mp compiles).2).1 name used
  refine List.mem_append_right _ ?_
  rwa [generatedEnums, if_pos (Option.isSome_iff_ne_none.mpr generated)]

/-- Modules link through the barrel exactly when every relation to another entity leads to one that
has relations itself, stand-ins apart, and when enums taken from the barrel are found there.  Enums
are taken from the barrel only where a configured specifier or the client's place says so. -/
theorem linked_run_iff :
    (run configuration layout model).Linked ↔
      (configuration.relationMode.isEnabled →
        ∀ entity ∈ model.compiled, ∀ target ∈ entity.foreignTargets,
          HasRelatedEntity model target ∨ HasStandIns configuration model target) ∧
      (configuration.enumFile = none →
        Imports.enumModule configuration layout = Imports.barrelSpecifier →
          ∀ entity ∈ model.compiled, ∀ name ∈ entity.enumNames,
            name ∈ offeredNames configuration model) := by
  rw [linked_run_iff_entities]
  simp only [mem_namesFrom_unchecked]
  constructor
  · intro linked
    refine ⟨?_, ?_⟩
    · intro enabled entity compiles target foreign
      rw [← relationSymbols_subset_offeredNames_iff enabled]
      intro name needed
      refine linked entity compiles name (.inl ⟨enabled, ?_⟩)
      exact Imports.mem_foreignSymbols.mpr ⟨target, foreign, needed⟩
    · intro _ source entity compiles name used
      exact linked entity compiles name (.inr ⟨source, used⟩)
  · rintro ⟨relations, enums⟩ entity compiles name (⟨enabled, needed⟩ | ⟨source, used⟩)
    · obtain ⟨target, foreign, needed⟩ := Imports.mem_foreignSymbols.mp needed
      have offered := relations enabled entity compiles target foreign
      exact (relationSymbols_subset_offeredNames_iff enabled).mpr offered needed
    · by_cases generated : configuration.enumFile = none
      · exact enums generated source entity compiles name used
      · exact enumNames_subset_offeredNames generated compiles used

/-- A post, which has an author. -/
def post : Entity where
  name := "Post"
  fields := [{ name := "id", kind := .scalar .int }, { name := "author", kind := .relation "User" }]

/-- Posts and users, who do not refer back to posts. -/
def oneWayPosts : DataModel where
  entities := [post, { name := "User", fields := [{ name := "id", kind := .scalar .string }] }]
  enums := []

/-- The module of posts imports names that the module of users does not declare, whatever the
layout. -/
theorem one_way_relation_dangles :
    (oneWayPosts.entities.map Entity.name).Nodup ∧
      ({} : Configuration).relationMode.isEnabled ∧
      ∀ layout,
        (run {} layout oneWayPosts).failures = [] ∧ ¬ (run {} layout oneWayPosts).Linked := by
  refine ⟨by decide, rfl, fun layout => ⟨?_, ?_⟩⟩
  · rw [failures_run]
    decide
  · intro linked
    have imported :
        "CompleteUserInput" ∈ (EntityModule.unchecked {} layout post).namesFrom
          Imports.barrelSpecifier :=
      mem_namesFrom_unchecked.mpr (.inl (by decide))
    have offered := linked_run_iff_entities.mp linked post (by decide) _ imported
    exact absurd offered (by decide)

end Generation
end EntitySchema
