import EntitySchema.Proofs.CompanionNames
import EntitySchema.Proofs.ImportedNames
import EntitySchema.Proofs.Reports
import Mathlib.Data.List.Nodup
import Mathlib.Data.List.Perm.Basic

/-!
# Clashes between names

Names come from several generators: fixed names of libraries and helpers, enums as the data model
names them, cased names of schemas, and names of companion types.  Some pairs of generators never
yield the same name; for the others, what a data model has to avoid is stated here.
-/

namespace EntitySchema

instance decidableDisjointNames (first second : List String) :
    Decidable (first.Disjoint second) :=
  decidable_of_iff (∀ name ∈ first, name ∉ second) List.disjoint_left.symm

/-! ## Names bound in one module -/

namespace Entity

/-- The names under which the module of an entity imports libraries and user helpers. -/
def libraryNames (configuration : Configuration) (entity : Entity) : List String :=
  ["z"] ++
    (if configuration.imports.isSome && entity.fields.any Imports.mentionsHelpers then
      [Imports.helperNamespace]
    else []) ++
    (if configuration.useDecimalLibrary && entity.usesScalar .decimal then ["Decimal"] else [])

/-- The names that the module of an entity binds whatever the names in the data model. -/
def fixedNames (configuration : Configuration) (entity : Entity) : List String :=
  entity.libraryNames configuration ++ entity.helperNames configuration

/-- The relation-aware schemas that the module of an entity imports. -/
def foreignSchemas (configuration : Configuration) (entity : Entity) : List String :=
  if configuration.relationMode.isEnabled then
    entity.foreignTargets.map (SchemaNames.ofConfiguration configuration).related
  else []

/-- The companion types that the module of an entity imports. -/
def foreignCompanions (configuration : Configuration) (entity : Entity) : List String :=
  if configuration.relationMode.isEnabled then
    entity.foreignTargets.flatMap fun target =>
      [SchemaNames.completeInput target, SchemaNames.completeOutput target]
  else []

/-- The names that the module of an entity imports for its relations, each once. -/
def foreignNames (configuration : Configuration) (entity : Entity) : List String :=
  if configuration.relationMode.isEnabled then Imports.foreignSymbols configuration entity else []

variable
  {configuration : Configuration}
  {layout : FileLayout}
  {entity : Entity}
  {name : String}

theorem mem_foreignCompanions :
    name ∈ entity.foreignCompanions configuration ↔
      configuration.relationMode.isEnabled ∧
        ∃ target ∈ entity.foreignTargets,
          name = SchemaNames.completeInput target ∨ name = SchemaNames.completeOutput target := by
  rw [foreignCompanions]
  split_ifs with enabled <;> simp [enabled]

/-- Relations need the schemas and the companion types of other entities. -/
theorem mem_foreignNames :
    name ∈ entity.foreignNames configuration ↔
      name ∈ entity.foreignSchemas configuration ∨
        name ∈ entity.foreignCompanions configuration := by
  rw [foreignNames, foreignSchemas, foreignCompanions]
  split_ifs with enabled
  · simp only [Imports.mem_foreignSymbols, Imports.relationSymbols, List.mem_map, List.mem_flatMap,
      ← exists_or, ← and_or_left, List.mem_cons, List.not_mem_nil, or_false]
    refine exists_congr fun target => and_congr_right fun _ => ?_
    tauto
  · simp

theorem disjoint_foreignNames_iff
    {names : List String} :
    names.Disjoint (entity.foreignNames configuration) ↔
      names.Disjoint (entity.foreignSchemas configuration) ∧
        names.Disjoint (entity.foreignCompanions configuration) := by
  rw [← List.disjoint_append_right]
  simp only [List.Disjoint, mem_foreignNames, List.mem_append]

theorem foreignNames_nodup : (entity.foreignNames configuration).Nodup := by
  rw [foreignNames]
  split_ifs
  · exact Text.nameSet_nodup _
  · exact List.nodup_nil

/-! ### Names that never clash -/

/-- All names of libraries and helpers. -/
theorem fixedNames_sublist :
    (entity.fixedNames configuration).Sublist
      [ "z", "imports", "Decimal", "Literal", "Json", "literalSchema", "jsonSchema",
        "decimalSchema" ] := by
  rw [fixedNames, libraryNames, helperNames]
  split_ifs <;> decide

theorem fixedNames_nodup : (entity.fixedNames configuration).Nodup :=
  List.Nodup.sublist fixedNames_sublist (by decide)

/-- No name of a library or helper starts as companion types do. -/
theorem not_mem_fixedNames
    (start : name.toList.head? = some 'C') :
    name ∉ entity.fixedNames configuration := by
  intro fixed
  have others : ∀ other ∈ ["z", "imports", "Decimal", "Literal", "Json", "literalSchema",
      "jsonSchema", "decimalSchema"], other.toList.head? ≠ some 'C' := by
    decide
  exact others name (fixedNames_sublist.subset fixed) start

/-- Libraries and helpers share no name with companion types, whichever entities these belong to. -/
theorem fixedNames_disjoint_of_complete
    {names : List String}
    (complete : ∀ name ∈ names, ∃ target,
      name = SchemaNames.completeInput target ∨ name = SchemaNames.completeOutput target) :
    (entity.fixedNames configuration).Disjoint names := by
  intro name fixed member
  obtain ⟨target, rfl | rfl⟩ := complete name member
  · exact not_mem_fixedNames (SchemaNames.head?_complete _ _) fixed
  · exact not_mem_fixedNames (SchemaNames.head?_complete _ _) fixed

theorem companions_nodup : (entity.companions configuration).Nodup := by
  rw [companions]
  split_ifs
  · simpa using SchemaNames.completeInput_ne_completeOutput _ _
  · exact List.nodup_nil

/-- Companion types of different entities differ. -/
theorem foreignCompanions_disjoint_companions :
    (entity.foreignCompanions configuration).Disjoint (entity.companions configuration) := by
  intro name foreign own
  obtain ⟨-, target, member, named⟩ := mem_foreignCompanions.mp foreign
  have other : target ≠ entity.name := (mem_foreignTargets.mp member).2
  obtain ⟨-, ownName⟩ := mem_companions.mp own
  rcases named with rfl | rfl
  · rcases ownName with same | mixed
    · exact other (SchemaNames.completeInput_injective same)
    · exact SchemaNames.completeInput_ne_completeOutput _ _ mixed
  · rcases ownName with mixed | same
    · exact SchemaNames.completeInput_ne_completeOutput _ _ mixed.symm
    · exact other (SchemaNames.completeOutput_injective same)

/-- The names in one module are told apart. -/
@[mk_iff]
structure NamesApart (configuration : Configuration) (entity : Entity) : Prop where
  /-- Libraries and helpers share no name with an enum or a schema. -/
  fixed : (entity.fixedNames configuration).Disjoint
    (entity.enumNames ++ entity.schemas configuration ++ entity.foreignSchemas configuration)
  /-- Enums share no name with a schema or a companion type. -/
  enums : entity.enumNames.Disjoint
    (entity.schemas configuration ++ entity.companions configuration ++
      entity.foreignSchemas configuration ++ entity.foreignCompanions configuration)
  /-- The two schemas of the entity have different names. -/
  own : (entity.schemas configuration).Nodup
  /-- The schemas of the entity share no name with a companion type or an imported schema. -/
  schemas : (entity.schemas configuration).Disjoint
    (entity.companions configuration ++ entity.foreignSchemas configuration ++
      entity.foreignCompanions configuration)
  /-- Imported schemas share no name with a companion type of the entity. -/
  foreign : (entity.foreignSchemas configuration).Disjoint (entity.companions configuration)

instance (configuration : Configuration) (entity : Entity) :
    Decidable (entity.NamesApart configuration) :=
  decidable_of_iff _ (namesApart_iff configuration entity).symm

end Entity

namespace EntityModule

variable
  {configuration : Configuration}
  {layout : FileLayout}
  {entity : Entity}

theorem symbols_ofHelpers :
    (Imports.ofHelpers configuration layout entity).flatMap Code.Import.symbols =
      if configuration.imports.isSome && entity.fields.any Imports.mentionsHelpers then
        [Imports.helperNamespace]
      else [] := by
  rw [Imports.ofHelpers]
  cases configuration.imports with
  | none => rfl
  | some path =>
      simp only [Option.isSome_some, Bool.true_and]
      split_ifs <;> rfl

theorem symbols_ofDecimal :
    (Imports.ofDecimal configuration entity).flatMap Code.Import.symbols =
      if configuration.useDecimalLibrary && entity.usesScalar .decimal then ["Decimal"]
      else [] := by
  rw [Imports.ofDecimal]
  split_ifs <;> rfl

theorem symbols_ofEnums :
    (Imports.ofEnums configuration layout entity).flatMap Code.Import.symbols =
      entity.enumNames := by
  rw [Imports.ofEnums]
  split_ifs with absent
  · exact (List.isEmpty_iff.mp absent).symm
  · exact List.append_nil _

theorem symbols_ofRelations :
    (Imports.ofRelations configuration entity).flatMap Code.Import.symbols =
      entity.foreignNames configuration := by
  rw [Imports.ofRelations, Entity.foreignNames]
  cases configuration.relationMode.isEnabled with
  | false => rfl
  | true =>
      simp only [Bool.true_and, if_true]
      split_ifs with foreign
      · exact List.append_nil _
      · have absent : entity.foreignTargets = [] := by simpa using foreign
        rw [Imports.foreignSymbols, absent]
        rfl

/-- The names that a module imports, sorted by their generators. -/
theorem importedNames_perm :
    (unchecked configuration layout entity).importedNames.Perm
      (entity.libraryNames configuration ++
        (entity.enumNames ++ entity.foreignNames configuration)) := by
  have imported := (@Imports.ofEntity_perm configuration layout entity).flatMap_right
    Code.Import.symbols
  rw [List.flatMap_cons, Imports.optional, List.flatMap_append, List.flatMap_append,
    List.flatMap_append, symbols_ofHelpers, symbols_ofDecimal, symbols_ofEnums,
    symbols_ofRelations] at imported
  rw [Entity.libraryNames]
  simp only [List.append_assoc] at imported ⊢
  exact imported

/-- The names that a module binds, sorted by their generators. -/
theorem boundNames_perm :
    (unchecked configuration layout entity).boundNames.Perm
      (entity.fixedNames configuration ++
        (entity.enumNames ++
          (entity.foreignNames configuration ++
            (entity.schemas configuration ++ entity.companions configuration)))) := by
  rw [Code.Module.boundNames, declaredNames_unchecked, Entity.fixedNames]
  refine (importedNames_perm.append (Entity.exports_perm.append_left _)).trans ?_
  simp only [List.append_assoc]
  refine List.Perm.append_left _ ?_
  -- The helpers move past the imported relation names, then past the enums.
  exact ((List.perm_append_comm_assoc _ _ _).append_left _).trans
    (List.perm_append_comm_assoc _ _ _)

/-- A module binds no name twice exactly when the names are told apart that are not told apart by
their generators. -/
theorem boundNames_nodup_iff :
    (unchecked configuration layout entity).boundNames.Nodup ↔
      entity.NamesApart configuration := by
  rw [boundNames_perm.nodup_iff]
  simp only [List.nodup_append', List.disjoint_append_right]
  constructor
  · rintro ⟨-, ⟨-, ⟨-, ⟨own, -, ownCompanions⟩, foreignOwn, foreignCompanions⟩, enumForeign,
      enumOwn, enumCompanions⟩, fixedEnums, fixedForeign, fixedOwn, -⟩
    have enumForeign := Entity.disjoint_foreignNames_iff.mp enumForeign
    have fixedForeign := Entity.disjoint_foreignNames_iff.mp fixedForeign
    have ownForeign := Entity.disjoint_foreignNames_iff.mp (List.disjoint_symm foreignOwn)
    have companionsForeign :=
      Entity.disjoint_foreignNames_iff.mp (List.disjoint_symm foreignCompanions)
    refine ⟨?_, ?_, own, ?_, List.disjoint_symm companionsForeign.1⟩
    · simp only [List.disjoint_append_right]
      exact ⟨⟨fixedEnums, fixedOwn⟩, fixedForeign.1⟩
    · simp only [List.disjoint_append_right]
      exact ⟨⟨⟨enumOwn, enumCompanions⟩, enumForeign.1⟩, enumForeign.2⟩
    · simp only [List.disjoint_append_right]
      exact ⟨⟨ownCompanions, ownForeign.1⟩, ownForeign.2⟩
  · rintro ⟨fixed, enums, own, schemas, foreign⟩
    -- What the condition leaves out is what the generators already keep apart.
    simp only [List.disjoint_append_right] at fixed enums schemas
    obtain ⟨⟨fixedEnums, fixedOwn⟩, fixedForeign⟩ := fixed
    obtain ⟨⟨⟨enumOwn, enumCompanions⟩, enumForeign⟩, enumForeignCompanions⟩ := enums
    obtain ⟨⟨ownCompanions, ownForeign⟩, ownForeignCompanions⟩ := schemas
    have fixedCompanions :
        (entity.fixedNames configuration).Disjoint (entity.companions configuration) :=
      Entity.fixedNames_disjoint_of_complete fun _ companion =>
        ⟨entity.name, (Entity.mem_companions.mp companion).2⟩
    have fixedForeignCompanions :
        (entity.fixedNames configuration).Disjoint (entity.foreignCompanions configuration) := by
      refine Entity.fixedNames_disjoint_of_complete fun _ companion => ?_
      obtain ⟨-, target, -, named⟩ := Entity.mem_foreignCompanions.mp companion
      exact ⟨target, named⟩
    refine ⟨Entity.fixedNames_nodup, ⟨Entity.enumNames_nodup _, ⟨Entity.foreignNames_nodup,
      ⟨own, Entity.companions_nodup, ownCompanions⟩, ?_, ?_⟩, ?_, enumOwn, enumCompanions⟩,
      fixedEnums, ?_, fixedOwn, fixedCompanions⟩
    · exact List.disjoint_symm
        (Entity.disjoint_foreignNames_iff.mpr ⟨ownForeign, ownForeignCompanions⟩)
    · refine List.disjoint_symm (Entity.disjoint_foreignNames_iff.mpr ⟨?_, ?_⟩)
      · exact List.disjoint_symm foreign
      · exact List.disjoint_symm Entity.foreignCompanions_disjoint_companions
    · exact Entity.disjoint_foreignNames_iff.mpr ⟨enumForeign, enumForeignCompanions⟩
    · exact Entity.disjoint_foreignNames_iff.mpr ⟨fixedForeign, fixedForeignCompanions⟩

end EntityModule

/-! ## Names exported by all modules -/

namespace SchemaNames

/-- Base schemas share a name exactly when their entities do after casing. -/
theorem base_eq_base_iff
    {names : SchemaNames}
    {first second : String} :
    names.base first = names.base second ↔
      names.casing.apply first = names.casing.apply second := by
  have suffixed : names.cased first = names.cased second ↔
      names.casing.apply first = names.casing.apply second := by
    rw [cased, cased, String.append_left_inj]
  rw [base, base, ← suffixed]
  cases names.mode with
  | default => exact String.append_right_inj _
  | enabled => rfl
  | disabled => rfl

end SchemaNames

namespace Generation

/-- The names of the entities whose relations are followed. -/
def followedNames (configuration : Configuration) (model : DataModel) : List String :=
  (model.compiled.filter (Entity.hasRelatedSchema configuration)).map Entity.name

/-- The names of all base schemas. -/
def baseNames (configuration : Configuration) (model : DataModel) : List String :=
  (model.compiled.map Entity.name).map (SchemaNames.ofConfiguration configuration).base

/-- The names of all relation-aware schemas. -/
def relatedNames (configuration : Configuration) (model : DataModel) : List String :=
  (followedNames configuration model).map (SchemaNames.ofConfiguration configuration).related

/-- The names of all companion types. -/
def companionNames (configuration : Configuration) (model : DataModel) : List String :=
  (followedNames configuration model).map SchemaNames.completeInput ++
    (followedNames configuration model).map SchemaNames.completeOutput

/-- The names that modules export are told apart. -/
@[mk_iff]
structure ExportsApart (configuration : Configuration) (model : DataModel) : Prop where
  /-- Casing keeps entities apart. -/
  base : ∀ first ∈ model.compiled.map Entity.name, ∀ second ∈ model.compiled.map Entity.name,
    configuration.modelCasing.apply first = configuration.modelCasing.apply second → first = second
  /-- Relation-aware schemas have different names. -/
  related : ∀ first ∈ followedNames configuration model,
    ∀ second ∈ followedNames configuration model,
      (SchemaNames.ofConfiguration configuration).related first =
        (SchemaNames.ofConfiguration configuration).related second → first = second
  /-- No base schema has the name of a relation-aware schema. -/
  mixed : (baseNames configuration model).Disjoint (relatedNames configuration model)
  /-- No schema has the name of a companion type. -/
  companions : (baseNames configuration model ++ relatedNames configuration model).Disjoint
    (companionNames configuration model)
  /-- No generated enum has the name of a schema or of a companion type. -/
  enums : (baseNames configuration model ++ relatedNames configuration model ++
    companionNames configuration model).Disjoint (generatedEnums configuration model)

instance (configuration : Configuration) (model : DataModel) :
    Decidable (ExportsApart configuration model) :=
  decidable_of_iff _ (exportsApart_iff configuration model).symm

variable
  {configuration : Configuration}
  {layout : FileLayout}
  {model : DataModel}

theorem flatMap_followed (entities : List Entity) (name : Entity -> String) :
    (entities.flatMap fun entity =>
        if entity.hasRelatedSchema configuration then [name entity] else []) =
      (entities.filter (Entity.hasRelatedSchema configuration)).map name := by
  induction entities with
  | nil => rfl
  | cons entity rest inductionHypothesis =>
      rw [List.flatMap_cons, List.filter_cons, inductionHypothesis]
      split_ifs <;> rfl

theorem schemas_perm :
    (model.compiled.flatMap (Entity.schemas configuration)).Perm
      (baseNames configuration model ++ relatedNames configuration model) := by
  let names := SchemaNames.ofConfiguration configuration
  have split := List.flatMap_append_perm model.compiled (fun entity => [names.base entity.name])
    (fun entity =>
      if entity.hasRelatedSchema configuration then [names.related entity.name] else [])
  rw [flatMap_followed, ← List.map_eq_flatMap] at split
  rw [baseNames, relatedNames, followedNames, List.map_map, List.map_map]
  exact split.symm

theorem companions_perm :
    (model.compiled.flatMap (Entity.companions configuration)).Perm
      (companionNames configuration model) := by
  have split := List.flatMap_append_perm model.compiled
    (fun entity =>
      if entity.hasRelatedSchema configuration then [SchemaNames.completeInput entity.name] else [])
    (fun entity =>
      if entity.hasRelatedSchema configuration then [SchemaNames.completeOutput entity.name]
      else [])
  rw [flatMap_followed, flatMap_followed] at split
  rw [companionNames, followedNames, List.map_map, List.map_map]
  refine List.Perm.trans (List.Perm.flatMap_left _ fun entity _ => ?_) split.symm
  rw [Entity.companions]
  split_ifs <;> exact .refl _

/-- The exported names, sorted by their generators. -/
theorem offeredNames_perm :
    (offeredNames configuration model).Perm
      (baseNames configuration model ++ relatedNames configuration model ++
        companionNames configuration model ++ generatedEnums configuration model) := by
  rw [offeredNames]
  refine List.Perm.append_right _ ?_
  calc
    (model.compiled.flatMap (Entity.exports configuration)).Perm
        (model.compiled.flatMap fun entity =>
          entity.schemas configuration ++ entity.companions configuration) :=
      List.Perm.flatMap_left _ fun _ _ => Entity.exports_perm
    List.Perm _
        (model.compiled.flatMap (Entity.schemas configuration) ++
          model.compiled.flatMap (Entity.companions configuration)) :=
      (List.flatMap_append_perm _ _ _).symm
    List.Perm _ _ := schemas_perm.append companions_perm

theorem followedNames_nodup
    (distinct : (model.entities.map Entity.name).Nodup) :
    (followedNames configuration model).Nodup :=
  (DataModel.compiled_names_nodup distinct).sublist (List.filter_sublist.map Entity.name)

/-- No two companion types share a name. -/
theorem companionNames_nodup
    (distinct : (model.entities.map Entity.name).Nodup) :
    (companionNames configuration model).Nodup := by
  have followed := @followedNames_nodup configuration model distinct
  rw [companionNames, List.nodup_append']
  refine ⟨followed.map SchemaNames.completeInput_injective,
    followed.map SchemaNames.completeOutput_injective, ?_⟩
  intro name input output
  obtain ⟨first, -, rfl⟩ := List.mem_map.mp input
  obtain ⟨second, -, same⟩ := List.mem_map.mp output
  exact SchemaNames.completeInput_ne_completeOutput _ _ same.symm

/-- The modules of an accepted data model export no name twice exactly when their names are told
apart. -/
theorem offeredNames_nodup_iff
    (accepted : model.checkNames = .ok model) :
    (offeredNames configuration model).Nodup ↔ ExportsApart configuration model := by
  obtain ⟨distinct, distinctEnums⟩ := DataModel.checkNames_eq_ok_iff.mp accepted
  have compiled := DataModel.compiled_names_nodup distinct
  have followed := @followedNames_nodup configuration model distinct
  have enums : (generatedEnums configuration model).Nodup := by
    rw [generatedEnums]
    split_ifs
    · exact distinctEnums
    · exact List.nodup_nil
  rw [offeredNames_perm.nodup_iff, List.nodup_append', List.nodup_append', List.nodup_append',
    baseNames, List.nodup_map_iff_inj_on compiled, relatedNames,
    List.nodup_map_iff_inj_on followed]
  simp only [SchemaNames.base_eq_base_iff]
  constructor
  · rintro ⟨⟨⟨base, related, mixed⟩, -, companions⟩, -, enums⟩
    exact ⟨base, related, mixed, companions, enums⟩
  · rintro ⟨base, related, mixed, companions, enumsApart⟩
    exact ⟨⟨⟨base, related, mixed⟩, companionNames_nodup distinct, companions⟩, enums, enumsApart⟩

/-- The module of enums and the barrel never bind a name twice, so only the modules of entities
matter. -/
theorem boundNames_run_nodup_iff
    (accepted : model.checkNames = .ok model) :
    (∀ unit ∈ (run configuration layout model).modules, unit.boundNames.Nodup) ↔
      ∀ entity ∈ model.compiled, entity.NamesApart configuration := by
  have enums (file : String) : (enumModule file model.enums).boundNames.Nodup := by
    have names : (enumModule file model.enums).boundNames = model.enums.map Enumeration.name := by
      simp [Code.Module.boundNames, Code.Module.importedNames, Code.Module.declaredNames,
        enumModule, enumConstant, Code.Statement.declaredName?, List.filterMap_map,
        Function.comp_def]
    rw [names]
    exact (DataModel.checkNames_eq_ok_iff.mp accepted).2
  have index :
      (barrel configuration (model.compiled.map Entity.name)).boundNames.Nodup := by
    have names : (barrel configuration (model.compiled.map Entity.name)).boundNames = [] := by
      simp [Code.Module.boundNames, Code.Module.importedNames, Code.Module.declaredNames, barrel,
        reExport, Code.Statement.declaredName?, List.filterMap_eq_nil_iff]
    rw [names]
    exact List.nodup_nil
  rw [modules_run]
  simp only [List.forall_mem_append, List.forall_mem_map, List.forall_mem_singleton, enums, index,
    EntityModule.boundNames_nodup_iff, implies_true, and_true]

/-- The modules of an accepted data model bind no name twice exactly when the names in each of them
are told apart, and the barrel offers no name twice exactly when the exported names are told
apart. -/
theorem names_clash_iff
    (accepted : model.checkNames = .ok model) :
    ((∀ unit ∈ (run configuration layout model).modules, unit.boundNames.Nodup) ↔
      ∀ entity ∈ model.compiled, entity.NamesApart configuration) ∧
    ((run configuration layout model).exportedNames.Nodup ↔
      ExportsApart configuration model) := by
  rw [exportedNames_run]
  exact ⟨boundNames_run_nodup_iff accepted, offeredNames_nodup_iff accepted⟩

/-- Products in categories, with helper schemas and an enum. -/
def products : DataModel where
  entities :=
    [ { name := "Product"
        fields :=
          [ { name := "price", kind := .scalar .decimal },
            { name := "details", kind := .scalar .json },
            { name := "state", kind := .enumeration "State" },
            { name := "category", kind := .relation "Category" } ] },
      { name := "Category"
        fields := [{ name := "products", kind := .relation "Product", isList := true }] } ]
  enums := [{ name := "State", values := [{ name := "NEW" }] }]

/-- Generation with the decimal library and a module of enums. -/
def productsConfiguration : Configuration :=
  { useDecimalLibrary := true, enumFile := some "enums" }

theorem names_clash_iff_products :
    let layout : FileLayout := { schema := "schema.prisma", output := "zod", client := "client" }
    products.checkNames = .ok products ∧
      (∀ unit ∈ (run productsConfiguration layout products).modules, unit.boundNames.Nodup) ∧
      (run productsConfiguration layout products).exportedNames.Nodup := by
  have accepted : products.checkNames = .ok products :=
    DataModel.checkNames_eq_ok_iff.mpr (by decide)
  exact ⟨accepted, (names_clash_iff accepted).1.mpr (by decide),
    (names_clash_iff accepted).2.mpr (by decide)⟩

/-- Users with friends, and entities and enums named like what is generated for users. -/
def clashingUsers : DataModel where
  entities :=
    [ { name := "User"
        fields :=
          [ { name := "settings", kind := .scalar .json },
            { name := "format", kind := .enumeration "Json" },
            { name := "friend", kind := .relation "User", isRequired := false } ] },
      { name := "RelatedUser", fields := [{ name := "id", kind := .scalar .int }] } ]
  enums := [{ name := "Json", values := [{ name := "PLAIN" }] }]

/-- The name of an enum is that of a helper type, and two entities export a schema of one name,
whatever the layout. -/
theorem generated_names_clash :
    clashingUsers.checkNames = .ok clashingUsers ∧
      ∀ layout,
        (run {} layout clashingUsers).failures = [] ∧
          ¬ (∀ unit ∈ (run {} layout clashingUsers).modules, unit.boundNames.Nodup) ∧
          ¬ (run {} layout clashingUsers).exportedNames.Nodup := by
  have accepted : clashingUsers.checkNames = .ok clashingUsers :=
    DataModel.checkNames_eq_ok_iff.mpr (by decide)
  refine ⟨accepted, fun layout => ⟨?_, ?_, ?_⟩⟩
  · rw [failures_run]
    decide
  · rw [boundNames_run_nodup_iff accepted]
    decide
  · rw [exportedNames_run]
    decide

end Generation
end EntitySchema
