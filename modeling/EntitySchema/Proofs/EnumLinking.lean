import EntitySchema.Proofs.ImportedNames
import EntitySchema.Proofs.Outcomes

/-!
# Linking enums

Where a module of enums is generated, every module of an entity with enum fields has one import on
their account.  It names the enums of the fields, each once, and the module of enums exports a
constant for each of them, with the entries that the data model declares first under that name.
-/

namespace EntitySchema

/-! ## Entities without enums -/

/-- The field, holding a text if it held a value of an enum. -/
def Field.withoutEnum (field : Field) : Field :=
  match field.kind with
  | .enumeration _ => { field with kind := .scalar .string }
  | .scalar _ | .relation _ => field

/-- The entity with texts in all fields that held values of enums. -/
def Entity.withoutEnums (entity : Entity) : Entity :=
  { entity with fields := entity.fields.map Field.withoutEnum }

namespace Field

@[simp] theorem documentation_withoutEnum (field : Field) :
    field.withoutEnum.documentation = field.documentation := by
  rw [withoutEnum]
  split <;> rfl

@[simp] theorem enumName?_withoutEnum (field : Field) :
    field.withoutEnum.kind.enumName? = none := by
  rw [withoutEnum]
  split
  · rfl
  · next kind => rw [kind]; rfl
  · next kind => rw [kind]; rfl

@[simp] theorem relationTarget?_withoutEnum (field : Field) :
    field.withoutEnum.kind.relationTarget? = field.kind.relationTarget? := by
  rw [withoutEnum]
  split
  · next kind => rw [kind]; rfl
  · rfl
  · rfl

/-- A field that gives up its enum becomes a string and nothing else. -/
theorem kind_withoutEnum_eq_scalar_iff
    {field : Field}
    {type : ScalarType}
    (other : type ≠ .string) :
    field.withoutEnum.kind = .scalar type ↔ field.kind = .scalar type := by
  rw [withoutEnum]
  split
  · next kind => simp [kind, Ne.symm other]
  · rfl
  · rfl

end Field

namespace Entity

@[simp] theorem enumNames_withoutEnums (entity : Entity) : entity.withoutEnums.enumNames = [] := by
  rw [List.eq_nil_iff_forall_not_mem]
  intro name member
  obtain ⟨field, known, named⟩ := mem_enumNames.mp member
  obtain ⟨original, -, rfl⟩ := List.mem_map.mp known
  rw [Field.enumName?_withoutEnum] at named
  cases named

@[simp] theorem foreignTargets_withoutEnums (entity : Entity) :
    entity.withoutEnums.foreignTargets = entity.foreignTargets := by
  simp only [foreignTargets, withoutEnums, List.filterMap_map, Function.comp_def,
    Field.relationTarget?_withoutEnum]

theorem usesScalar_withoutEnums
    (entity : Entity)
    {type : ScalarType}
    (other : type ≠ .string) :
    entity.withoutEnums.usesScalar type = entity.usesScalar type := by
  simp only [usesScalar, withoutEnums, List.any_map, Function.comp_def,
    Field.kind_withoutEnum_eq_scalar_iff other]

/-- Helpers are mentioned in documentation, which no field gives up. -/
theorem any_mentionsHelpers_withoutEnums (entity : Entity) :
    entity.withoutEnums.fields.any Imports.mentionsHelpers =
      entity.fields.any Imports.mentionsHelpers := by
  rw [withoutEnums, List.any_map]
  congr 1
  funext field
  simp only [Function.comp_def, Imports.mentionsHelpers, Field.docs,
    Field.documentation_withoutEnum]

end Entity

namespace Imports

variable
  {configuration : Configuration}
  {layout : FileLayout}
  {entity : Entity}

theorem ofHelpers_withoutEnums :
    ofHelpers configuration layout entity.withoutEnums = ofHelpers configuration layout entity := by
  rw [ofHelpers, ofHelpers, Entity.any_mentionsHelpers_withoutEnums]

theorem ofDecimal_withoutEnums :
    ofDecimal configuration entity.withoutEnums = ofDecimal configuration entity := by
  rw [ofDecimal, ofDecimal, Entity.usesScalar_withoutEnums entity (by simp)]

theorem ofRelations_withoutEnums :
    ofRelations configuration entity.withoutEnums = ofRelations configuration entity := by
  rw [ofRelations, ofRelations, Entity.foreignTargets_withoutEnums]

/-- Enum fields account for one import; the others are there without them. -/
theorem ofEntity_perm_withoutEnums
    (used : entity.enumNames ≠ []) :
    (ofEntity configuration layout entity).Perm
      ({ source := enumModule configuration layout, binding := .named entity.enumNames } ::
        ofEntity configuration layout entity.withoutEnums) := by
  have enums : ofEnums configuration layout entity =
      [{ source := enumModule configuration layout, binding := .named entity.enumNames }] := by
    rw [ofEnums, if_neg (by simpa using used)]
  have noEnums : ofEnums configuration layout entity.withoutEnums = [] := by
    rw [ofEnums, Entity.enumNames_withoutEnums]
    rfl
  refine ofEntity_perm.trans (.trans ?_ (ofEntity_perm.symm.cons _))
  refine .trans (.cons _ ?_) (.swap _ _ _)
  rw [optional, optional, enums, noEnums, ofHelpers_withoutEnums, ofDecimal_withoutEnums,
    ofRelations_withoutEnums, List.append_nil, List.append_assoc]
  exact List.perm_middle

end Imports

/-! ## Declared constants -/

theorem FieldKind.enumName?_eq_some_iff
    {kind : FieldKind}
    {name : String} :
    kind.enumName? = some name ↔ kind = .enumeration name := by
  cases kind <;> simp [enumName?]

/-- Every name of an enum is the name of a first enum. -/
theorem DataModel.exists_enumeration?
    {model : DataModel}
    {name : String}
    (known : name ∈ model.enums.map Enumeration.name) :
    ∃ enumeration, model.enumeration? name = some enumeration ∧ enumeration.name = name := by
  obtain ⟨declared, member, named⟩ := List.mem_map.mp known
  have present : (model.enumeration? name).isSome :=
    List.find?_isSome.mpr ⟨declared, member, by simpa using named⟩
  obtain ⟨enumeration, found⟩ := Option.isSome_iff_exists.mp present
  exact ⟨enumeration, found, by simpa using List.find?_some found⟩

namespace Code

/-- A statement that exports a constant with the given name and entries. -/
def Statement.ExportsEntries (name : String) (entries : List (String × String))
    (statement : Statement) : Prop :=
  ∃ constant, statement = .constant constant ∧ constant.exported ∧ constant.name = name ∧
    constant.value = .constObject entries

/-- The first statement of a module that declares a name. -/
def Module.declaration? (unit : Module) (name : String) : Option Statement :=
  unit.statements.find? fun statement => statement.declaredName? = some name

end Code

/-- The entries of an enum: the names of its values, each with what the data store holds for it, and
that is the name where nothing else is said. -/
def Enumeration.entries (enumeration : Enumeration) : List (String × String) :=
  enumeration.values.map fun value => (value.name, value.storedName.getD value.name)

namespace Generation

/-- The constant of an enum exports all values of the enum under its name. -/
theorem exportsEntries_enumConstant (enumeration : Enumeration) :
    (Code.Statement.constant (enumConstant enumeration)).ExportsEntries enumeration.name
      enumeration.entries :=
  ⟨_, rfl, rfl, rfl, rfl⟩

/-- The module of enums declares a name first where the data model does. -/
theorem declaration?_enumModule
    (file name : String)
    (model : DataModel) :
    (enumModule file model.enums).declaration? name =
      (model.enumeration? name).map fun enumeration => .constant (enumConstant enumeration) := by
  rw [Code.Module.declaration?, enumModule, List.find?_map, DataModel.enumeration?]
  congr 2
  funext enumeration
  simp only [Function.comp_apply, Code.Statement.declaredName?, enumConstant, Option.some_inj]
  rfl

/-- An import takes the enums of an entity's fields, each once, from the module of enums, which
declares each of them with the entries of the first enum of that name. -/
structure LinksEnums (model : DataModel) (entity : Entity) (enums : Code.Module)
    (declaration : Code.Import) : Prop where
  /-- The specifier leads to the module of enums. -/
  source : declaration.source = "./" ++ enums.fileName
  named : declaration.binding = .named declaration.symbols
  distinct : declaration.symbols.Nodup
  /-- The symbols are the enums that the fields name. -/
  used : ∀ name,
    name ∈ declaration.symbols ↔ ∃ field ∈ entity.fields, field.kind = .enumeration name
  /-- The module of enums exports what is imported. -/
  exported : ∀ name ∈ declaration.symbols,
    ∃ enumeration statement,
      model.enumeration? name = some enumeration ∧
        enums.declaration? name = some statement ∧
          statement.ExportsEntries name enumeration.entries

variable
  {configuration : Configuration}
  {layout : FileLayout}
  {model : DataModel}
  {entity : Entity}

/-- The enums that an entity names are found in the module of enums once the entity compiles. -/
theorem linksEnums_of_resolves
    {file : String}
    (configured : configuration.enumFile = some file)
    (resolves : entity.Resolves model) :
    LinksEnums model entity (enumModule file model.enums)
      { source := Imports.enumModule configuration layout
        binding := .named entity.enumNames } where
  source := by rw [Imports.enumModule, configured]; rfl
  named := rfl
  distinct := entity.enumNames_nodup
  used := by
    intro name
    rw [Code.Import.symbols, Code.Binding.symbols, Entity.mem_enumNames]
    simp only [FieldKind.enumName?_eq_some_iff]
  exported := by
    intro name member
    have known := (Entity.failure?_eq_none_iff.mp
      (Entity.failure?_eq_none_iff_resolves.mpr resolves)).1 name member
    obtain ⟨enumeration, found, rfl⟩ := DataModel.exists_enumeration? known
    refine ⟨enumeration, _, found, ?_, exportsEntries_enumConstant enumeration⟩
    rw [declaration?_enumModule, found]
    rfl

/-- In a run with a module of enums, the module of every entity that has enum fields has one import
on their account: without these fields it would have the others, and no more.  The import takes the
enums that the fields name from the module of enums of the same run.  That module declares one
constant for each enum of the data model, in order. -/
theorem enum_imports_linked
    (configuration : Configuration)
    (layout : FileLayout)
    (model : DataModel)
    (file : String)
    (configured : configuration.enumFile = some file) :
    ∃ entityModules enums barrel,
      (run configuration layout model).modules = entityModules ++ [enums, barrel] ∧
      enums.fileName = file ∧
      List.Forall₂
        (fun enumeration statement =>
          Code.Statement.ExportsEntries enumeration.name enumeration.entries statement)
        model.enums enums.statements ∧
      List.Forall₂
        (fun entity unit =>
          EntityModule.ofEntity configuration layout model entity = .ok unit ∧
            ((∃ field ∈ entity.fields, ∃ name, field.kind = .enumeration name) →
              ∃ declaration,
                LinksEnums model entity enums declaration ∧
                  unit.imports.Perm
                    (declaration ::
                      (EntityModule.unchecked configuration layout entity.withoutEnums).imports)))
        (model.entities.filter (Entity.Resolves model)) entityModules := by
  refine ⟨model.compiled.map (EntityModule.unchecked configuration layout),
    enumModule file model.enums, barrel configuration (model.compiled.map Entity.name),
    ?_, rfl, ?_, ?_⟩
  · rw [modules_run, configured, List.append_assoc]
    rfl
  · rw [enumModule, List.forall₂_map_right_iff, List.forall₂_same]
    exact fun enumeration _ => exportsEntries_enumConstant enumeration
  · rw [← DataModel.compiled_eq_filter_resolves, List.forall₂_map_right_iff, List.forall₂_same]
    intro entity member
    have compiles := (DataModel.mem_compiled.mp member).2
    refine ⟨EntityModule.ofEntity_eq_ok_iff.mpr ⟨compiles, rfl⟩, ?_⟩
    rintro ⟨field, known, name, kind⟩
    have used : name ∈ entity.enumNames :=
      Entity.mem_enumNames.mpr ⟨field, known, FieldKind.enumName?_eq_some_iff.mpr kind⟩
    exact ⟨_, linksEnums_of_resolves configured (Entity.failure?_eq_none_iff_resolves.mp compiles),
      Imports.ofEntity_perm_withoutEnums (List.ne_nil_of_mem used)⟩

/-- A ticket, which names one enum twice. -/
def ticket : Entity where
  name := "Ticket"
  fields :=
    [ { name := "state", kind := .enumeration "State" },
      { name := "cost", kind := .scalar .decimal },
      { name := "urgency", kind := .enumeration "Level", isRequired := false },
      { name := "before", kind := .enumeration "State", isList := true } ]

/-- Tickets, an entity that does not compile, and two enums of one name. -/
def tickets : DataModel where
  entities :=
    [ { name := "Draft", fields := [{ name := "owner", kind := .relation "Nobody" }] }, ticket ]
  enums :=
    [ { name := "State"
        values := [{ name := "OPEN", storedName := some "open" }, { name := "DONE" }] },
      { name := "Level", values := [{ name := "HIGH" }] },
      { name := "State", values := [{ name := "OTHER" }] } ]

/-- A module of enums in a directory of its own. -/
def ticketsConfiguration : Configuration := { enumFile := some "shared/enums" }

theorem enum_imports_linked_tickets :
    ticketsConfiguration.enumFile = some "shared/enums" ∧
      ∀ layout, ∃ enums ∈ (run ticketsConfiguration layout tickets).modules,
        ∃ unit ∈ (run ticketsConfiguration layout tickets).modules,
          ∃ declaration ∈ unit.imports,
            declaration.source = "./shared/enums" ∧ "State" ∈ declaration.symbols ∧
              ∃ statement, enums.declaration? "State" = some statement ∧
                statement.ExportsEntries "State" [("OPEN", "open"), ("DONE", "DONE")] := by
  refine ⟨rfl, fun layout => ?_⟩
  obtain ⟨entityModules, enums, barrel, modules, fileName, -, linked⟩ :=
    enum_imports_linked ticketsConfiguration layout tickets "shared/enums" rfl
  have compiling : tickets.entities.filter (Entity.Resolves tickets) = [ticket] := by decide
  rw [compiling] at linked
  obtain ⟨unit, rest, ⟨-, links⟩, -, rfl⟩ := List.forall₂_cons_left_iff.mp linked
  obtain ⟨declaration, link, imports⟩ :=
    links ⟨{ name := "state", kind := .enumeration "State" }, by decide, "State", rfl⟩
  have used : "State" ∈ declaration.symbols :=
    (link.used "State").mpr ⟨{ name := "state", kind := .enumeration "State" }, by decide, rfl⟩
  obtain ⟨enumeration, statement, first, declared, exported⟩ := link.exported "State" used
  have entries : enumeration.entries = [("OPEN", "open"), ("DONE", "DONE")] := by
    cases first
    rfl
  rw [modules]
  refine ⟨enums, by simp, unit, by simp, declaration, imports.mem_iff.mpr List.mem_cons_self, ?_,
    used, statement, declared, entries ▸ exported⟩
  rw [link.source, fileName]
  rfl

end Generation
end EntitySchema
