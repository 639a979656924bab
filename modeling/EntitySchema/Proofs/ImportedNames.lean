import EntitySchema.Generation.Imports
import EntitySchema.Proofs.NameSets

/-!
# Names that entity modules import

The imports of a module are the validator library and, in another order, those that its parts ask
for.  Each part asks for its import under a condition of its own.
-/

namespace EntitySchema
namespace Imports

variable
  {configuration : Configuration}
  {layout : FileLayout}
  {entity : Entity}

/-- Sorting only reorders what the parts ask for. -/
theorem ofEntity_perm :
    (ofEntity configuration layout entity).Perm
      (ofValidators :: optional configuration layout entity) :=
  (List.mergeSort_perm _ _).cons _

theorem mem_ofEntity
    {declaration : Code.Import} :
    declaration ∈ ofEntity configuration layout entity ↔
      declaration = ofValidators ∨
        declaration ∈ ofHelpers configuration layout entity ∨
        declaration ∈ ofDecimal configuration entity ∨
        declaration ∈ ofEnums configuration layout entity ∨
        declaration ∈ ofRelations configuration entity := by
  rw [ofEntity_perm.mem_iff, List.mem_cons, optional]
  simp only [List.mem_append, or_assoc]

theorem mem_ofDecimal
    {declaration : Code.Import} :
    declaration ∈ ofDecimal configuration entity ↔
      (configuration.useDecimalLibrary ∧ entity.usesScalar .decimal) ∧
        declaration = { source := "decimal.js", binding := .named ["Decimal"] } := by
  rw [ofDecimal]
  split_ifs with used <;> simp_all

theorem mem_ofEnums
    {declaration : Code.Import} :
    declaration ∈ ofEnums configuration layout entity ↔
      entity.enumNames ≠ [] ∧
        declaration =
          { source := enumModule configuration layout
            binding := .named entity.enumNames } := by
  rw [ofEnums]
  split_ifs with absent <;> simp_all

/-- The names that the relations of an entity need of other entities. -/
def foreignSymbols (configuration : Configuration) (entity : Entity) : List String :=
  Text.nameSet
    (entity.foreignTargets.flatMap (relationSymbols (.ofConfiguration configuration)))

@[simp] theorem mem_foreignSymbols
    {symbol : String} :
    symbol ∈ foreignSymbols configuration entity ↔
      ∃ target ∈ entity.foreignTargets,
        symbol ∈ relationSymbols (.ofConfiguration configuration) target := by
  rw [foreignSymbols, Text.mem_nameSet, List.mem_flatMap]

theorem mem_ofRelations
    {declaration : Code.Import} :
    declaration ∈ ofRelations configuration entity ↔
      (configuration.relationMode.isEnabled ∧ entity.foreignTargets ≠ []) ∧
        declaration =
          { source := barrelSpecifier
            binding := .named (foreignSymbols configuration entity) } := by
  rw [ofRelations]
  split_ifs with needed <;> simp_all [foreignSymbols]

/-- An entity that names enums imports all of them at once. -/
theorem enumImport_mem_ofEntity
    (used : entity.enumNames ≠ []) :
    { source := enumModule configuration layout, binding := .named entity.enumNames } ∈
      ofEntity configuration layout entity := by
  rw [mem_ofEntity, mem_ofEnums]
  exact .inr (.inr (.inr (.inl ⟨used, rfl⟩)))

/-- An entity with relations to other entities imports all that they need at once. -/
theorem relationImport_mem_ofEntity
    (enabled : configuration.relationMode.isEnabled)
    (foreign : entity.foreignTargets ≠ []) :
    { source := barrelSpecifier, binding := .named (foreignSymbols configuration entity) } ∈
      ofEntity configuration layout entity := by
  rw [mem_ofEntity, mem_ofRelations]
  exact .inr (.inr (.inr (.inr ⟨⟨enabled, foreign⟩, rfl⟩)))

/-- Every enum that an entity names is imported from the module of enums. -/
theorem exists_enum_import
    {name : String}
    (used : name ∈ entity.enumNames) :
    ∃ declaration ∈ ofEntity configuration layout entity,
      declaration.source = enumModule configuration layout ∧ name ∈ declaration.symbols :=
  ⟨_, enumImport_mem_ofEntity (List.ne_nil_of_mem used), rfl, used⟩

/-- Every name that a relation to another entity needs is imported from the barrel. -/
theorem exists_relation_import
    {target : String}
    (enabled : configuration.relationMode.isEnabled)
    (foreign : target ∈ entity.foreignTargets) :
    ∃ declaration ∈ ofEntity configuration layout entity,
      declaration.source = barrelSpecifier ∧
        ∀ symbol ∈ relationSymbols (.ofConfiguration configuration) target,
          symbol ∈ declaration.symbols := by
  refine ⟨_, relationImport_mem_ofEntity enabled (List.ne_nil_of_mem foreign), rfl, ?_⟩
  intro symbol needed
  exact mem_foreignSymbols.mpr ⟨target, foreign, needed⟩

end Imports
end EntitySchema
