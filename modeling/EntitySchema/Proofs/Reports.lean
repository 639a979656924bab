import EntitySchema.DataModel.Reader
import EntitySchema.Generation
import EntitySchema.Proofs.DeclaredNames

/-!
# Reports

What a run yields, in terms of the entities that compile: their modules in the order of the data
model, then the module of enums, then the barrel.  The barrel re-exports every other module, so the
names that it offers are those that the entities and enums export.
-/

namespace EntitySchema

/-- A field names something missing when no entity or enum of the data model has the name. -/
theorem Field.missingReference?_eq_none_iff
    {model : DataModel}
    {field : Field} :
    field.missingReference? model = none ↔
      (∀ name, field.kind.enumName? = some name → name ∈ model.enums.map Enumeration.name) ∧
        ∀ target, field.kind.relationTarget? = some target →
          target ∈ model.entities.map Entity.name := by
  rw [missingReference?]
  cases field.kind with
  | scalar type => simp [FieldKind.enumName?, FieldKind.relationTarget?]
  | enumeration name =>
      simp [FieldKind.enumName?, FieldKind.relationTarget?, DataModel.enumeration?]
  | relation target =>
      simp [FieldKind.enumName?, FieldKind.relationTarget?, DataModel.entity?]

/-- An entity compiles when the data model has all that its fields name. -/
theorem Entity.failure?_eq_none_iff
    {model : DataModel}
    {entity : Entity} :
    entity.failure? model = none ↔
      (∀ name ∈ entity.enumNames, name ∈ model.enums.map Enumeration.name) ∧
        ∀ field ∈ entity.fields, ∀ target, field.kind.relationTarget? = some target →
          target ∈ model.entities.map Entity.name := by
  simp only [failure?, List.findSome?_eq_none_iff, Option.map_eq_none_iff,
    Field.missingReference?_eq_none_iff, mem_enumNames]
  constructor
  · intro present
    refine ⟨?_, fun field member => (present field member).2⟩
    rintro name ⟨field, member, named⟩
    exact (present field member).1 name named
  · rintro ⟨enums, targets⟩ field member
    exact ⟨fun name named => enums name ⟨field, member, named⟩, targets field member⟩

namespace DataModel

/-- The entities whose fields name nothing that is missing. -/
def compiled (model : DataModel) : List Entity :=
  model.entities.filter fun entity => (entity.failure? model).isNone

theorem mem_compiled
    {model : DataModel}
    {entity : Entity} :
    entity ∈ model.compiled ↔ entity ∈ model.entities ∧ entity.failure? model = none := by
  rw [compiled, List.mem_filter, Option.isNone_iff_eq_none]

/-- The search for a repeated name finds nothing in lists without repetition only. -/
theorem repeatedName?_eq_none_iff
    {names seen : List String} :
    repeatedName? seen names = none ↔ names.Nodup ∧ ∀ name ∈ names, name ∉ seen := by
  induction names generalizing seen with
  | nil => simp [repeatedName?]
  | cons name rest inductionHypothesis =>
      rw [repeatedName?]
      by_cases known : name ∈ seen
      · simp [known]
      · simp only [List.contains_eq_mem, known, decide_false, Bool.false_eq_true, if_false,
          inductionHypothesis, List.nodup_cons, List.mem_cons, not_or, forall_eq_or_imp,
          not_false_eq_true, true_and]
        constructor
        · rintro ⟨distinct, fresh⟩
          refine ⟨⟨fun repeated => (fresh name repeated).1 rfl, distinct⟩, ?_⟩
          exact fun later member => (fresh later member).2
        · rintro ⟨⟨absent, distinct⟩, fresh⟩
          refine ⟨distinct, fun later member => ⟨?_, fresh later member⟩⟩
          rintro rfl
          exact absent member

/-- A data model is accepted when no two entities and no two enums share a name. -/
theorem checkNames_eq_ok_iff
    {model : DataModel} :
    model.checkNames = .ok model ↔
      (model.entities.map Entity.name).Nodup ∧ (model.enums.map Enumeration.name).Nodup := by
  have distinct (names : List String) : repeatedName? [] names = none ↔ names.Nodup := by
    rw [repeatedName?_eq_none_iff]
    simp
  rw [← distinct, ← distinct, checkNames]
  cases repeatedName? [] (model.entities.map Entity.name) <;>
    cases repeatedName? [] (model.enums.map Enumeration.name) <;> simp

/-- The names of the entities that compile are distinct if those of all entities are. -/
theorem compiled_names_nodup
    {model : DataModel}
    (distinct : (model.entities.map Entity.name).Nodup) :
    (model.compiled.map Entity.name).Nodup :=
  distinct.sublist (List.filter_sublist.map Entity.name)

end DataModel

namespace Generation

variable
  {configuration : Configuration}
  {layout : FileLayout}
  {model : DataModel}

/-- Whether an entity compiles decides on its outcome. -/
theorem module?_outcome (entity : Entity) :
    module? (entity, EntityModule.ofEntity configuration layout model entity) =
      (Option.guard (fun entity => (entity.failure? model).isNone) entity).map
        (EntityModule.unchecked configuration layout) := by
  rw [EntityModule.ofEntity]
  cases outcome : entity.failure? model <;> simp [module?, Option.guard, outcome]

theorem compiledName?_outcome (entity : Entity) :
    compiledName? (entity, EntityModule.ofEntity configuration layout model entity) =
      (Option.guard (fun entity => (entity.failure? model).isNone) entity).map Entity.name := by
  rw [EntityModule.ofEntity]
  cases outcome : entity.failure? model <;> simp [compiledName?, Option.guard, outcome]

theorem failure?_outcome (entity : Entity) :
    failure? (entity, EntityModule.ofEntity configuration layout model entity) =
      entity.failure? model := by
  rw [EntityModule.ofEntity]
  cases outcome : entity.failure? model <;> simp [failure?]

/-- The modules of a run. -/
theorem modules_run :
    (run configuration layout model).modules =
      model.compiled.map (EntityModule.unchecked configuration layout) ++
        configuration.enumFile.toList.map (fun file => enumModule file model.enums) ++
          [barrel configuration (model.compiled.map Entity.name)] := by
  simp only [run, outcomes, List.filterMap_map, Function.comp_def, module?_outcome,
    compiledName?_outcome, ← List.map_filterMap, List.filterMap_eq_filter, DataModel.compiled]

theorem failures_run :
    (run configuration layout model).failures =
      model.entities.filterMap (Entity.failure? model) := by
  simp only [run, outcomes, List.filterMap_map, Function.comp_def, failure?_outcome]

/-! ## Exports through the barrel -/

/-- The modules that the last module of a report, the barrel, re-exports. -/
def Report.reExported (report : Report) : List Code.Module :=
  report.modules.filter fun unit =>
    report.modules.getLast?.any fun barrel => barrel.statements.contains (reExport unit.fileName)

/-- The names that the barrel of a report offers, each as often as it is exported. -/
def Report.exportedNames (report : Report) : List String :=
  report.reExported.flatMap Code.Module.exportedNames

/-- The names of the enums that get a module. -/
def generatedEnums (configuration : Configuration) (model : DataModel) : List String :=
  if configuration.enumFile.isSome then model.enums.map Enumeration.name else []

/-- The names that the modules of a data model export, each as often as it is exported. -/
def offeredNames (configuration : Configuration) (model : DataModel) : List String :=
  model.compiled.flatMap (Entity.exports configuration) ++ generatedEnums configuration model

theorem exportedNames_enumModule
    (file : String)
    (enums : List Enumeration) :
    (enumModule file enums).exportedNames = enums.map Enumeration.name := by
  simp [Code.Module.exportedNames, enumModule, enumConstant, Code.Statement.exportedName?,
    List.filterMap_map, Function.comp_def]

theorem exportedNames_barrel (entities : List String) :
    (barrel configuration entities).exportedNames = [] := by
  simp [Code.Module.exportedNames, barrel, reExport, Code.Statement.exportedName?]

theorem getLast?_modules_run :
    (run configuration layout model).modules.getLast? =
      some (barrel configuration (model.compiled.map Entity.name)) := by
  rw [modules_run, List.getLast?_concat]

/-- The barrel re-exports the modules of the entities and the module of enums, and offers what
they export. -/
theorem exportedNames_run :
    (run configuration layout model).exportedNames = offeredNames configuration model := by
  rw [Report.exportedNames, Report.reExported, getLast?_modules_run, modules_run]
  simp only [Option.any_some, List.filter_append, List.flatMap_append]
  have entityModules :
      (model.compiled.map (EntityModule.unchecked configuration layout)).filter (fun unit =>
          (barrel configuration (model.compiled.map Entity.name)).statements.contains
            (reExport unit.fileName)) =
        model.compiled.map (EntityModule.unchecked configuration layout) := by
    rw [List.filter_eq_self, List.forall_mem_map]
    intro entity member
    rw [List.contains_iff_mem]
    exact List.mem_append_left _ (List.mem_map.mpr ⟨_, List.mem_map_of_mem member, rfl⟩)
  have enumModules :
      (configuration.enumFile.toList.map fun file => enumModule file model.enums).filter
          (fun unit =>
            (barrel configuration (model.compiled.map Entity.name)).statements.contains
              (reExport unit.fileName)) =
        configuration.enumFile.toList.map fun file => enumModule file model.enums := by
    rw [List.filter_eq_self, List.forall_mem_map]
    intro file member
    rw [List.contains_iff_mem]
    exact List.mem_append_right _ (List.mem_map_of_mem member)
  -- The barrel may re-export its own file name, but it exports nothing of its own.
  have barrelNames (keeps : Code.Module -> Bool) :
      ([barrel configuration (model.compiled.map Entity.name)].filter keeps).flatMap
        Code.Module.exportedNames = [] := by
    rw [List.filter_singleton]
    cases keeps (barrel configuration (model.compiled.map Entity.name)) <;>
      simp [exportedNames_barrel]
  rw [entityModules, enumModules, barrelNames, List.append_nil, List.flatMap_map,
    List.flatMap_map, offeredNames, generatedEnums]
  simp only [EntityModule.exportedNames_unchecked, exportedNames_enumModule]
  congr 1
  cases configuration.enumFile <;> simp

end Generation
end EntitySchema
