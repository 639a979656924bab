import EntitySchema.Proofs.Lists
import EntitySchema.Proofs.Reports

/-!
# Outcomes of entities

An entity compiles exactly when the data model has every entity and every enum that its fields
name.  Any other entity is reported once, with its first field that names something missing.  A run
therefore splits the entities of a data model into modules and failures, both in the order of the
data model, and its barrel re-exports all other modules of the report.
-/

namespace EntitySchema

/-! ## References of fields -/

/-- The data model has the entity or the enum that a field names. -/
def Field.Resolves (model : DataModel) (field : Field) : Prop :=
  (∀ target ∈ field.kind.relationTarget?, target ∈ model.entities.map Entity.name) ∧
    ∀ name ∈ field.kind.enumName?, name ∈ model.enums.map Enumeration.name

instance Field.decidableResolves (model : DataModel) (field : Field) :
    Decidable (field.Resolves model) :=
  inferInstanceAs (Decidable (_ ∧ _))

/-- The data model has every entity and every enum that the fields of an entity name. -/
def Entity.Resolves (model : DataModel) (entity : Entity) : Prop :=
  ∀ field ∈ entity.fields, field.Resolves model

instance Entity.decidableResolves (model : DataModel) (entity : Entity) :
    Decidable (entity.Resolves model) :=
  inferInstanceAs (Decidable (∀ field ∈ entity.fields, field.Resolves model))

/-- A field names something of the same kind that the data model lacks. -/
def MissingReference.IsMissingIn (model : DataModel) (field : Field) : MissingReference -> Prop
  | entity target =>
      field.kind = .relation target ∧ target ∉ model.entities.map Entity.name
  | enumeration name =>
      field.kind = .enumeration name ∧ name ∉ model.enums.map Enumeration.name

/-- A failure carries the name of an entity, and the first field of the entity that names something
missing. -/
structure EntityFailure.Explains (model : DataModel) (entity : Entity) (failure : EntityFailure) :
    Prop where
  named : failure.entity = entity.name
  /-- All fields before the reported one are in order. -/
  first : ∃ earlier field later,
    entity.fields = earlier ++ field :: later ∧
      (∀ before ∈ earlier, before.Resolves model) ∧
        failure.field = field.name ∧ failure.missing.IsMissingIn model field

namespace Field

variable
  {model : DataModel}
  {field : Field}

theorem missingReference?_eq_none_iff_resolves :
    field.missingReference? model = none ↔ field.Resolves model := by
  rw [missingReference?_eq_none_iff, Resolves, and_comm]
  rfl

/-- A field names one thing at most, so what is missing has the kind of the field. -/
theorem missingReference?_eq_some_iff
    {missing : MissingReference} :
    field.missingReference? model = some missing ↔ missing.IsMissingIn model field := by
  rw [missingReference?]
  cases kind : field.kind with
  | scalar type => cases missing <;> simp [MissingReference.IsMissingIn, kind]
  | enumeration name =>
      cases missing with
      | entity target => simp [MissingReference.IsMissingIn, kind]
      | enumeration lacking =>
          simp only [MissingReference.IsMissingIn, kind, DataModel.enumeration?]
          by_cases same : name = lacking <;> simp [same]
  | relation target =>
      cases missing with
      | enumeration name => simp [MissingReference.IsMissingIn, kind]
      | entity lacking =>
          simp only [MissingReference.IsMissingIn, kind, DataModel.entity?]
          by_cases same : target = lacking <;> simp [same]

end Field

namespace Entity

variable
  {model : DataModel}
  {entity : Entity}

theorem failure?_eq_none_iff_resolves :
    entity.failure? model = none ↔ entity.Resolves model := by
  simp only [failure?, List.findSome?_eq_none_iff, Option.map_eq_none_iff,
    Field.missingReference?_eq_none_iff_resolves, Resolves]

/-- The search for a failure stops at the first field that names something missing. -/
theorem failure?_eq_some_iff
    {failure : EntityFailure} :
    entity.failure? model = some failure ↔ failure.Explains model entity := by
  simp only [failure?, List.findSome?_eq_some_iff, Option.map_eq_some_iff, Option.map_eq_none_iff,
    Field.missingReference?_eq_some_iff, Field.missingReference?_eq_none_iff_resolves]
  constructor
  · rintro ⟨earlier, field, later, fields, ⟨missing, lacking, rfl⟩, resolved⟩
    exact ⟨rfl, earlier, field, later, fields, resolved, rfl, lacking⟩
  · -- A failure has no other parts than those that the explanation fixes.
    rintro ⟨named, earlier, field, later, fields, resolved, fieldName, lacking⟩
    refine ⟨earlier, field, later, fields, ⟨failure.missing, lacking, ?_⟩, resolved⟩
    rw [← named, ← fieldName]

end Entity

namespace DataModel

theorem compiled_eq_filter_resolves (model : DataModel) :
    model.compiled = model.entities.filter (Entity.Resolves model) := by
  refine List.filter_congr fun entity _ => ?_
  rw [Bool.eq_iff_iff, decide_eq_true_iff, Option.isNone_iff_eq_none,
    Entity.failure?_eq_none_iff_resolves]

end DataModel

theorem EntityModule.ofEntity_eq_error_iff
    {configuration : Configuration}
    {layout : FileLayout}
    {model : DataModel}
    {entity : Entity}
    {failure : EntityFailure} :
    ofEntity configuration layout model entity = .error failure ↔
      entity.failure? model = some failure := by
  rw [ofEntity]
  cases entity.failure? model <;> simp

/-! ## The entities of a run -/

namespace Generation

variable
  {configuration : Configuration}
  {layout : FileLayout}
  {model : DataModel}

theorem forall₂_compiled :
    List.Forall₂
      (fun entity unit =>
        EntityModule.ofEntity configuration layout model entity = .ok unit ∧
          unit.fileName = configuration.fileCasing.apply entity.name)
      (model.entities.filter (Entity.Resolves model))
      (model.compiled.map (EntityModule.unchecked configuration layout)) := by
  rw [← DataModel.compiled_eq_filter_resolves, List.forall₂_map_right_iff, List.forall₂_same]
  intro entity member
  have compiles := (DataModel.mem_compiled.mp member).2
  exact ⟨EntityModule.ofEntity_eq_ok_iff.mpr ⟨compiles, rfl⟩, rfl⟩

/-- Each entity that does not resolve has the failure that explains it. -/
theorem forall₂_failures :
    List.Forall₂
      (fun entity failure =>
        EntityModule.ofEntity configuration layout model entity = .error failure ∧
          failure.Explains model entity)
      (model.entities.filter fun entity => ¬ entity.Resolves model)
      (run configuration layout model).failures := by
  -- An entity has a failure exactly when it does not resolve, so no entity is in both lists.
  have failing (entity : Entity) :
      (entity.failure? model).isSome = decide (¬ entity.Resolves model) := by
    rw [Bool.eq_iff_iff, decide_eq_true_iff, ← Option.ne_none_iff_isSome, Ne,
      Entity.failure?_eq_none_iff_resolves]
  have listed := List.forall₂_filter_filterMap (Entity.failure? model) model.entities
  simp only [failing] at listed
  rw [failures_run]
  refine listed.imp fun entity failure found => ?_
  exact ⟨EntityModule.ofEntity_eq_error_iff.mpr found, Entity.failure?_eq_some_iff.mp found⟩

theorem statements_barrel :
    (barrel configuration (model.compiled.map Entity.name)).statements =
      (model.compiled.map (EntityModule.unchecked configuration layout) ++
          configuration.enumFile.toList.map fun file => enumModule file model.enums).map
        fun unit => .exportAll ("./" ++ unit.fileName) := by
  simp only [barrel, List.map_append, List.map_map]
  rfl

/-- A run accounts for every entity of a data model once.  In the order of the data model, those
that resolve have the module that they compile to, and all others have a failure that explains
them.  The module of enums, where one is configured, and the barrel come last, and the barrel
re-exports every other module in the order of the report. -/
theorem entities_conserved
    (configuration : Configuration)
    (layout : FileLayout)
    (model : DataModel) :
    ∃ entityModules enumModules barrel,
      (run configuration layout model).modules = entityModules ++ enumModules ++ [barrel] ∧
      List.Forall₂
        (fun entity unit =>
          EntityModule.ofEntity configuration layout model entity = .ok unit ∧
            unit.fileName = configuration.fileCasing.apply entity.name)
        (model.entities.filter (Entity.Resolves model))
        entityModules ∧
      List.Forall₂
        (fun entity failure =>
          EntityModule.ofEntity configuration layout model entity = .error failure ∧
            failure.Explains model entity)
        (model.entities.filter fun entity => ¬ entity.Resolves model)
        (run configuration layout model).failures ∧
      enumModules = configuration.enumFile.toList.map (fun file => enumModule file model.enums) ∧
      barrel.fileName = "index" ∧
      barrel.statements =
        (entityModules ++ enumModules).map fun unit => .exportAll ("./" ++ unit.fileName) :=
  ⟨_, _, _, modules_run, forall₂_compiled, forall₂_failures, rfl, rfl, statements_barrel⟩

end Generation
end EntitySchema
