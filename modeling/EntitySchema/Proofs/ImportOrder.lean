import EntitySchema.Proofs.ImportedNames
import EntitySchema.Proofs.Outcomes
import Mathlib.Data.List.Lex

/-!
# Order of imports

The imports of a module depend on the set of an entity's fields alone.  The validator library comes
first; the other declarations are in the order of their modules and, for one module, of what they
bind; the names that a declaration lists are strictly ascending.
-/

namespace EntitySchema

/-! ## The order of declarations -/

namespace Code

/-- Named exports precede a whole module, and each sort is in the order of its names. -/
def Binding.Precedes : Binding -> Binding -> Prop
  | named first, named second => first ≤ second
  | named _, whole _ => True
  | whole _, named _ => False
  | whole first, whole second => first ≤ second

/-- Imports are in the order of their modules, and those of one module in the order of what they
bind. -/
def Import.Precedes (first second : Import) : Prop :=
  first.source < second.source ∨
    first.source = second.source ∧ first.binding.Precedes second.binding

/-- Lists of names are compared by the first place where they differ. -/
theorem compare_names_eq_lt_iff (first second : List String) :
    compare first second = .lt ↔ first < second := by
  induction first generalizing second with
  | nil => cases second <;> simp [List.compare_nil_cons]
  | cons head tail inductionHypothesis =>
      cases second with
      | nil => simp [List.compare_cons_nil]
      | cons other rest =>
          rw [List.compare_cons_cons, Ordering.then_eq_lt, inductionHypothesis,
            List.cons_lt_cons_iff, Std.LawfulLTCmp.eq_lt_iff_lt, Std.compare_eq_iff_eq]

theorem isLE_compare_names (first second : List String) :
    (compare first second).isLE ↔ first ≤ second := by
  rw [Ordering.isLE_iff_eq_lt_or_eq_eq, compare_names_eq_lt_iff, Std.compare_eq_iff_eq,
    le_iff_lt_or_eq]

/-- The order by which bindings are sorted is that of precedence. -/
theorem Binding.isLE_order
    {first second : Binding} :
    (first.order second).isLE ↔ first.Precedes second := by
  cases first with
  | named symbols =>
      cases second with
      | named others => exact isLE_compare_names symbols others
      | whole other => simp [order, Precedes]
  | whole name =>
      cases second with
      | named others => simp [order, Precedes]
      | whole other =>
          change (compare name other).isLE ↔ name ≤ other
          exact Std.LawfulLECmp.isLE_iff_le

/-- The order by which imports are sorted is that of precedence. -/
theorem Import.isLE_order
    {first second : Import} :
    (first.order second).isLE ↔ first.Precedes second := by
  rw [order, Ordering.isLE_then_iff_or, Binding.isLE_order, Std.LawfulLTCmp.eq_lt_iff_lt,
    Std.compare_eq_iff_eq, Precedes]

theorem Binding.Precedes.trans
    {first second third : Binding}
    (before : first.Precedes second)
    (after : second.Precedes third) :
    first.Precedes third := by
  cases first <;> cases second <;> cases third <;> simp only [Precedes] at before after ⊢
  all_goals exact before.trans after

theorem Binding.precedes_total (first second : Binding) :
    first.Precedes second ∨ second.Precedes first := by
  cases first <;> cases second <;> simp [Precedes, le_total]

theorem Import.Precedes.trans
    {first second third : Import}
    (before : first.Precedes second)
    (after : second.Precedes third) :
    first.Precedes third := by
  rcases before with lower | ⟨same, bound⟩
  · rcases after with below | ⟨equal, -⟩
    · exact .inl (lower.trans below)
    · exact .inl (equal ▸ lower)
  · rcases after with below | ⟨equal, later⟩
    · exact .inl (same ▸ below)
    · exact .inr ⟨same.trans equal, bound.trans later⟩

theorem Import.precedes_total (first second : Import) :
    first.Precedes second ∨ second.Precedes first := by
  rcases lt_trichotomy first.source second.source with lower | same | higher
  · exact .inl (.inl lower)
  · exact (Binding.precedes_total first.binding second.binding).imp
      (fun bound => .inr ⟨same, bound⟩) fun bound => .inr ⟨same.symm, bound⟩
  · exact .inr (.inl higher)

end Code

/-! ## Fields in another order -/

namespace Entity

/-- Two entities have one name and the same fields, in whatever order and number. -/
structure SameFields (first second : Entity) : Prop where
  name : first.name = second.name
  fields : ∀ field, field ∈ first.fields ↔ field ∈ second.fields

namespace SameFields

variable
  {first second : Entity}

/-- What holds of some field of one entity holds of some field of the other. -/
theorem any_eq
    (same : SameFields first second)
    (holds : Field -> Bool) :
    first.fields.any holds = second.fields.any holds := by
  rw [Bool.eq_iff_iff, List.any_eq_true, List.any_eq_true]
  simp only [same.fields]

/-- Entities with the same fields name the same things in them. -/
theorem mem_filterMap_iff
    (same : SameFields first second)
    (name? : Field -> Option String)
    (name : String) :
    name ∈ first.fields.filterMap name? ↔ name ∈ second.fields.filterMap name? := by
  simp only [List.mem_filterMap, same.fields]

theorem enumNames_eq
    (same : SameFields first second) :
    first.enumNames = second.enumNames :=
  Text.nameSet_congr (same.mem_filterMap_iff _)

theorem foreignTargets_eq
    (same : SameFields first second) :
    first.foreignTargets = second.foreignTargets := by
  refine Text.nameSet_congr fun target => ?_
  rw [List.mem_filter, List.mem_filter, same.mem_filterMap_iff, same.name]

theorem resolves_iff
    (same : SameFields first second)
    {model : DataModel} :
    first.Resolves model ↔ second.Resolves model := by
  simp only [Resolves, same.fields]

end SameFields
end Entity

/-! ## The imports of an entity -/

namespace Imports

variable
  {configuration : Configuration}
  {layout : FileLayout}
  {model : DataModel}
  {entity first second : Entity}

/-- Behind the validator library, imports are in order. -/
theorem optional_sorted :
    ((optional configuration layout entity).mergeSort fun first second =>
      (first.order second).isLE).Pairwise Code.Import.Precedes := by
  have transitive (first second third : Code.Import) :
      (first.order second).isLE → (second.order third).isLE → (first.order third).isLE := by
    rw [Code.Import.isLE_order, Code.Import.isLE_order, Code.Import.isLE_order]
    exact Code.Import.Precedes.trans
  have total (first second : Code.Import) :
      (first.order second).isLE || (second.order first).isLE := by
    rw [Bool.or_eq_true, Code.Import.isLE_order, Code.Import.isLE_order]
    exact Code.Import.precedes_total first second
  exact (List.pairwise_mergeSort transitive total _).imp Code.Import.isLE_order.mp

/-- The names that an import lists are a set of names. -/
theorem named_ascending
    {declaration : Code.Import}
    (member : declaration ∈ ofEntity configuration layout entity)
    {symbols : List String}
    (named : declaration.binding = .named symbols) :
    symbols.Pairwise (· < ·) := by
  rcases mem_ofEntity.mp member with rfl | helpers | decimal | enums | relations
  · cases named
    exact List.pairwise_singleton _ _
  · -- The module of user helpers is imported as a whole and lists no names.
    rw [ofHelpers] at helpers
    split at helpers
    · split_ifs at helpers with mentioned
      · rw [List.mem_singleton.mp helpers] at named
        cases named
      · cases helpers
    · cases helpers
  · rw [(mem_ofDecimal.mp decimal).2] at named
    cases named
    exact List.pairwise_singleton _ _
  · rw [(mem_ofEnums.mp enums).2] at named
    cases named
    exact Text.nameSet_ascending _
  · rw [(mem_ofRelations.mp relations).2] at named
    cases named
    exact Text.nameSet_ascending _

/-- Imports depend on the set of fields alone. -/
theorem ofEntity_eq_of_sameFields
    (same : first.SameFields second) :
    ofEntity configuration layout first = ofEntity configuration layout second := by
  -- The collected lists agree already, so nothing about sorting is needed.
  have collected : optional configuration layout first = optional configuration layout second := by
    rw [optional, optional, ofHelpers, ofHelpers, ofDecimal, ofDecimal, ofEnums, ofEnums,
      ofRelations, ofRelations, Entity.usesScalar, Entity.usesScalar, same.any_eq, same.any_eq,
      same.enumNames_eq, same.foreignTargets_eq]
  rw [ofEntity, ofEntity, collected]

/-- The imports of an entity's module, if the entity compiles. -/
def resolve (configuration : Configuration) (layout : FileLayout) (model : DataModel)
    (entity : Entity) : Except EntityFailure (List Code.Import) :=
  (EntityModule.ofEntity configuration layout model entity).map Code.Module.imports

theorem resolve_of_resolves
    (resolved : entity.Resolves model) :
    resolve configuration layout model entity = .ok (ofEntity configuration layout entity) := by
  have compiles := Entity.failure?_eq_none_iff_resolves.mpr resolved
  rw [resolve, EntityModule.ofEntity_eq_ok_iff.mpr ⟨compiles, rfl⟩]
  rfl

/-- An entity that names something missing has no imports at all. -/
theorem resolve_of_not_resolves
    (unresolved : ¬ entity.Resolves model) :
    ∃ failure, resolve configuration layout model entity = .error failure := by
  rw [← Entity.failure?_eq_none_iff_resolves, ← Ne, Option.ne_none_iff_exists'] at unresolved
  obtain ⟨failure, found⟩ := unresolved
  refine ⟨failure, ?_⟩
  rw [resolve, EntityModule.ofEntity_eq_error_iff.mpr found]
  rfl

/-- Entities of one name with the same fields, in whatever order and number, have the same imports,
or both fail.  Imports start with the validator library; the others are in the order of their
modules and of what they bind, and each lists its names strictly ascending. -/
theorem imports_canonical
    (configuration : Configuration)
    (layout : FileLayout)
    (model : DataModel) :
    (∀ first second : Entity, first.SameFields second →
      (∃ imports,
        resolve configuration layout model first = .ok imports ∧
          resolve configuration layout model second = .ok imports) ∨
      ∃ firstFailure secondFailure,
        resolve configuration layout model first = .error firstFailure ∧
          resolve configuration layout model second = .error secondFailure) ∧
    ∀ entity imports, resolve configuration layout model entity = .ok imports →
      (∃ rest,
        imports = { source := "zod", binding := .named ["z"] } :: rest ∧
          rest.Pairwise Code.Import.Precedes) ∧
      ∀ declaration ∈ imports, ∀ symbols, declaration.binding = .named symbols →
        symbols.Pairwise (· < ·) := by
  refine ⟨?_, ?_⟩
  · intro first second same
    by_cases resolved : first.Resolves model
    · refine .inl ⟨_, resolve_of_resolves resolved, ?_⟩
      rw [ofEntity_eq_of_sameFields same]
      exact resolve_of_resolves (same.resolves_iff.mp resolved)
    · obtain ⟨firstFailure, firstFails⟩ := resolve_of_not_resolves resolved
      obtain ⟨secondFailure, secondFails⟩ :=
        resolve_of_not_resolves (same.resolves_iff.not.mp resolved)
      exact .inr ⟨firstFailure, secondFailure, firstFails, secondFails⟩
  · intro entity imports found
    have resolved : entity.Resolves model := by
      by_contra unresolved
      obtain ⟨failure, fails⟩ := @resolve_of_not_resolves configuration layout _ _ unresolved
      rw [fails] at found
      cases found
    rw [resolve_of_resolves resolved] at found
    cases found
    exact ⟨⟨_, rfl, optional_sorted⟩, fun _ member _ named => named_ascending member named⟩

/-- Prices of articles, with helpers for their status. -/
def priceConfiguration : Configuration :=
  { useDecimalLibrary := true, imports := some "../helpers", enumImport := some "decimal.js" }

/-- An article with a field of each kind that asks for an import. -/
def article : Entity where
  name := "Article"
  fields :=
    [ { name := "shop", kind := .relation "Shop" },
      { name := "price", kind := .scalar .decimal },
      { name := "status"
        kind := .enumeration "Status"
        documentation := some "@zod.refine(imports.isOpen)" } ]

/-- The article with its fields from the last to the first, and then once more. -/
def repeatedArticle : Entity :=
  { article with fields := article.fields.reverse ++ article.fields }

/-- A shop and its articles. -/
def articles : DataModel where
  entities := [article, { name := "Shop", fields := [] }]
  enums := [{ name := "Status", values := [{ name := "OPEN" }] }]

/-- Modules beside the data model. -/
def articlesLayout : FileLayout where
  schema := "/shop/schema"
  output := "/shop/zod"
  client := "/shop/client"

theorem imports_canonical_articles :
    article.SameFields repeatedArticle ∧
      ∃ imports,
        resolve priceConfiguration articlesLayout articles article = .ok imports ∧
        resolve priceConfiguration articlesLayout articles repeatedArticle = .ok imports ∧
        ∃ rest,
          imports = { source := "zod", binding := .named ["z"] } :: rest ∧
            rest.Pairwise Code.Import.Precedes := by
  have same : article.SameFields repeatedArticle :=
    ⟨rfl, fun field => by simp [repeatedArticle]⟩
  have found := @resolve_of_resolves priceConfiguration articlesLayout articles article (by decide)
  obtain ⟨equal, canonical⟩ := imports_canonical priceConfiguration articlesLayout articles
  rcases equal _ _ same with ⟨imports, first, second⟩ | ⟨failure, -, fails, -⟩
  · exact ⟨same, imports, first, second, (canonical _ _ first).1⟩
  · rw [found] at fails
    cases fails

end Imports
end EntitySchema
