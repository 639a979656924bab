import EntitySchema.Proofs.Outcomes
import Mathlib.Data.List.DropRight
import Mathlib.Data.List.FinRange
import Mathlib.Logic.Equiv.Basic

/-!
# Independence of entity modules

An entity sees the rest of its data model only through the presence of the names that its fields
mention.  Its module is therefore the same in every data model that has the same of these names.
Entities and enums that are added leave all modules of other entities as they are, and entities
that are rearranged take their modules and their re-exports along.
-/

namespace EntitySchema

/-! ## Data models that look alike -/

namespace DataModel

/-- Two data models have the same of the entities and enums that an entity names. -/
structure AgreeOn (first second : DataModel) (entity : Entity) : Prop where
  targets : ∀ field ∈ entity.fields, ∀ target ∈ field.kind.relationTarget?,
    (target ∈ first.entities.map Entity.name ↔ target ∈ second.entities.map Entity.name)
  enums : ∀ field ∈ entity.fields, ∀ name ∈ field.kind.enumName?,
    (name ∈ first.enums.map Enumeration.name ↔ name ∈ second.enums.map Enumeration.name)

variable
  {first second : DataModel}
  {entity : Entity}

/-- Data models with the same entities and enums agree on every entity. -/
theorem agreeOn_of_same_members
    (sameEntities : ∀ member, member ∈ first.entities ↔ member ∈ second.entities)
    (sameEnums : ∀ member, member ∈ first.enums ↔ member ∈ second.enums) :
    AgreeOn first second entity := by
  refine ⟨fun _ _ target _ => ?_, fun _ _ name _ => ?_⟩
  · simp only [List.mem_map, sameEntities]
  · simp only [List.mem_map, sameEnums]

/-- What a field lacks depends on the one name that it mentions. -/
theorem AgreeOn.missingReference?_eq
    (agree : AgreeOn first second entity)
    {field : Field}
    (member : field ∈ entity.fields) :
    field.missingReference? first = field.missingReference? second := by
  ext missing
  rw [Field.missingReference?_eq_some_iff, Field.missingReference?_eq_some_iff]
  cases missing with
  | entity target =>
      refine and_congr_right fun kind => not_congr ?_
      exact agree.targets field member target (by rw [kind]; rfl)
  | enumeration name =>
      refine and_congr_right fun kind => not_congr ?_
      exact agree.enums field member name (by rw [kind]; rfl)

theorem AgreeOn.failure?_eq
    (agree : AgreeOn first second entity) :
    entity.failure? first = entity.failure? second := by
  rw [Entity.failure?, Entity.failure?, ← List.head?_filterMap, ← List.head?_filterMap]
  congr 1
  refine List.filterMap_congr fun field member => ?_
  rw [agree.missingReference?_eq member]

theorem AgreeOn.ofEntity_eq
    (agree : AgreeOn first second entity)
    (configuration : Configuration)
    (layout : FileLayout) :
    EntityModule.ofEntity configuration layout first entity =
      EntityModule.ofEntity configuration layout second entity := by
  rw [EntityModule.ofEntity, EntityModule.ofEntity, agree.failure?_eq]

/-- What resolves in a data model resolves in a data model with more entities and enums. -/
theorem resolves_mono
    (entities : first.entities ⊆ second.entities)
    (enums : first.enums ⊆ second.enums)
    (resolved : entity.Resolves first) :
    entity.Resolves second := by
  intro field member
  obtain ⟨targets, names⟩ := resolved field member
  exact ⟨fun target named => List.map_subset _ entities (targets target named),
    fun name named => List.map_subset _ enums (names name named)⟩

/-- Entities that compile do so next to further entities and enums, in whatever order. -/
theorem compiled_subperm
    (entities : first.entities.Subperm second.entities)
    (enums : first.enums.Subperm second.enums) :
    first.compiled.Subperm second.compiled := by
  rw [compiled_eq_filter_resolves, compiled_eq_filter_resolves]
  -- Entities are added first, while it is still the smaller data model that decides; then the
  -- larger one decides, which only keeps more of them.
  have kept : (second.entities.filter (Entity.Resolves first)).Sublist
      (second.entities.filter (Entity.Resolves second)) := by
    refine List.monotone_filter_right _ fun entity resolved => ?_
    rw [decide_eq_true_iff] at resolved ⊢
    exact resolves_mono entities.subset enums.subset resolved
  exact (entities.filter _).trans kept.subperm

end DataModel

/-! ## Modules in other data models -/

namespace Generation

/-- The modules of a report before the module of enums and the barrel. -/
def Report.entityModules (configuration : Configuration) (report : Report) : List Code.Module :=
  report.modules.rdrop (configuration.enumFile.toList.length + 1)

/-- The re-exports of the last module of a report, the barrel, before that of the module of
enums. -/
def Report.entityReExports (configuration : Configuration) (report : Report) :
    List Code.Statement :=
  (report.modules.getLast?.elim [] Code.Module.statements).rdrop
    configuration.enumFile.toList.length

/-- What the entity at a place of a data model adds to the modules of a run. -/
def moduleAt? (configuration : Configuration) (layout : FileLayout) (model : DataModel)
    (place : Fin model.entities.length) : Option Code.Module :=
  (EntityModule.ofEntity configuration layout model (model.entities.get place)).toOption

/-- What the entity at a place of a data model adds to the re-exports of the barrel. -/
def reExportAt? (configuration : Configuration) (layout : FileLayout) (model : DataModel)
    (place : Fin model.entities.length) : Option Code.Statement :=
  (moduleAt? configuration layout model place).map fun unit => reExport unit.fileName

variable
  {configuration : Configuration}
  {layout : FileLayout}
  {first second model : DataModel}

theorem entityModules_run :
    (run configuration layout model).entityModules configuration =
      model.compiled.map (EntityModule.unchecked configuration layout) := by
  rw [Report.entityModules, modules_run, List.append_assoc]
  have closing :
      configuration.enumFile.toList.length + 1 =
        (configuration.enumFile.toList.map (fun file => enumModule file model.enums) ++
          [barrel configuration (model.compiled.map Entity.name)]).length := by
    simp
  rw [closing, List.rdrop_append_length]

theorem entityReExports_run :
    (run configuration layout model).entityReExports configuration =
      ((run configuration layout model).entityModules configuration).map
        fun unit => reExport unit.fileName := by
  rw [entityModules_run, Report.entityReExports, getLast?_modules_run, Option.elim_some, barrel,
    List.map_map, List.map_map]
  have closing :
      configuration.enumFile.toList.length =
        (configuration.enumFile.toList.map reExport).length := by
    simp
  rw [closing, List.rdrop_append_length]
  rfl

/-- The entities add their modules in the order of their places. -/
theorem entityModules_run_eq_places :
    (run configuration layout model).entityModules configuration =
      (List.finRange _).filterMap (moduleAt? configuration layout model) := by
  -- A run sorts outcomes by their constructor, and so does the passage to options.
  have outcome (entity : Entity) :
      (EntityModule.ofEntity configuration layout model entity).toOption =
        module? (entity, EntityModule.ofEntity configuration layout model entity) := by
    cases EntityModule.ofEntity configuration layout model entity <;> rfl
  have placed :
      (List.finRange _).filterMap (moduleAt? configuration layout model) =
        ((List.finRange _).map model.entities.get).filterMap fun entity =>
          (EntityModule.ofEntity configuration layout model entity).toOption := by
    rw [List.filterMap_map]
    rfl
  rw [placed, List.map_get_finRange]
  simp only [outcome, module?_outcome, ← List.map_filterMap, List.filterMap_eq_filter,
    entityModules_run, DataModel.compiled]

theorem entityReExports_run_eq_places :
    (run configuration layout model).entityReExports configuration =
      (List.finRange _).filterMap (reExportAt? configuration layout model) := by
  rw [entityReExports_run, entityModules_run_eq_places, List.map_filterMap]
  rfl

/-- Data models with the same entities in other places agree on all entities. -/
theorem agreeOn_of_rearranged
    (places : Fin second.entities.length ≃ Fin first.entities.length)
    (moved : ∀ place, second.entities.get place = first.entities.get (places place))
    (enums : first.enums.Perm second.enums)
    (entity : Entity) :
    first.AgreeOn second entity := by
  refine DataModel.agreeOn_of_same_members (fun member => ?_) fun _ => enums.mem_iff
  rw [List.mem_iff_get, List.mem_iff_get, ← places.exists_congr_right]
  simp only [moved]

theorem moduleAt?_of_rearranged
    (places : Fin second.entities.length ≃ Fin first.entities.length)
    (moved : ∀ place, second.entities.get place = first.entities.get (places place))
    (enums : first.enums.Perm second.enums) :
    moduleAt? configuration layout second =
      moduleAt? configuration layout first ∘ places := by
  funext place
  have agree := agreeOn_of_rearranged places moved enums (first.entities.get (places place))
  rw [Function.comp_apply, moduleAt?, moduleAt?, moved, agree.ofEntity_eq]

/-- An entity has the same outcome in all data models that have the same of the names that it
mentions.  The modules of a data model's entities occur unchanged among those of every data model
with more entities and enums, in any order.  A data model with the same entities in other places
has their modules, and the barrel their re-exports, in the same other places. -/
theorem entity_modules_independent
    (configuration : Configuration)
    (layout : FileLayout)
    (first second : DataModel) :
    (∀ entity, first.AgreeOn second entity →
      EntityModule.ofEntity configuration layout first entity =
        EntityModule.ofEntity configuration layout second entity) ∧
    (first.entities.Subperm second.entities → first.enums.Subperm second.enums →
      ((run configuration layout first).entityModules configuration).Subperm
        ((run configuration layout second).entityModules configuration)) ∧
    ∀ places : Fin second.entities.length ≃ Fin first.entities.length,
      (∀ place, second.entities.get place = first.entities.get (places place)) →
      first.enums.Perm second.enums →
        (run configuration layout first).entityModules configuration =
            (List.finRange _).filterMap (moduleAt? configuration layout first) ∧
        (run configuration layout second).entityModules configuration =
            (List.finRange _).filterMap (moduleAt? configuration layout first ∘ places) ∧
        (run configuration layout first).entityReExports configuration =
            (List.finRange _).filterMap (reExportAt? configuration layout first) ∧
        (run configuration layout second).entityReExports configuration =
            (List.finRange _).filterMap (reExportAt? configuration layout first ∘ places) := by
  refine ⟨fun entity agree => agree.ofEntity_eq configuration layout, ?_, ?_⟩
  · intro entities enums
    obtain ⟨kept, sameKept, within⟩ := DataModel.compiled_subperm entities enums
    rw [entityModules_run, entityModules_run]
    exact ⟨kept.map _, sameKept.map _, within.map _⟩
  · intro places moved enums
    have modules : moduleAt? configuration layout second =
        moduleAt? configuration layout first ∘ places :=
      moduleAt?_of_rearranged places moved enums
    have reExports : reExportAt? configuration layout second =
        reExportAt? configuration layout first ∘ places := by
      funext place
      rw [reExportAt?, modules]
      rfl
    refine ⟨entityModules_run_eq_places, ?_, entityReExports_run_eq_places, ?_⟩
    · rw [entityModules_run_eq_places, modules]
    · rw [entityReExports_run_eq_places, reExports]

/-- A draft that relates to an entity that is not there. -/
def draft : Entity where
  name := "Draft"
  fields := [{ name := "editor", kind := .relation "Editor" }]

/-- Books with their authors, and a draft that does not compile. -/
def press : DataModel where
  entities :=
    [ { name := "Book"
        fields :=
          [ { name := "author", kind := .relation "Author" },
            { name := "genre", kind := .enumeration "Genre" } ] },
      draft,
      { name := "Author"
        fields := [{ name := "books", kind := .relation "Book", isList := true }] } ]
  enums := [{ name := "Genre", values := [{ name := "NOVEL" }] }]

/-- The same entities from the last to the first. -/
def reversedPress : DataModel := { press with entities := press.entities.reverse }

/-- Modules beside the data model. -/
def pressLayout : FileLayout where
  schema := "/press/schema"
  output := "/press/zod"
  client := "/press/client"

theorem entity_modules_independent_press :
    press.AgreeOn reversedPress draft ∧
      EntityModule.ofEntity {} pressLayout press draft =
        EntityModule.ofEntity {} pressLayout reversedPress draft ∧
      press.entities.Subperm reversedPress.entities ∧
      ((run {} pressLayout press).entityModules {}).Subperm
        ((run {} pressLayout reversedPress).entityModules {}) ∧
      ∃ places : Fin reversedPress.entities.length ≃ Fin press.entities.length,
        (∀ place, reversedPress.entities.get place = press.entities.get (places place)) ∧
          (run {} pressLayout reversedPress).entityModules {} =
            (List.finRange _).filterMap (moduleAt? {} pressLayout press ∘ places) := by
  let places : Fin reversedPress.entities.length ≃ Fin press.entities.length :=
    (Equiv.swap 0 2 : Fin 3 ≃ Fin 3)
  have moved : ∀ place, reversedPress.entities.get place = press.entities.get (places place) := by
    decide
  have agree := agreeOn_of_rearranged places moved (List.Perm.refl _) draft
  have within := (List.reverse_perm press.entities).symm.subperm
  obtain ⟨outcomes, more, modules⟩ :=
    entity_modules_independent {} pressLayout press reversedPress
  exact ⟨agree, outcomes draft agree, within, more within (List.Subperm.refl _), places, moved,
    (modules places moved (List.Perm.refl _)).2.1⟩

end Generation
end EntitySchema
