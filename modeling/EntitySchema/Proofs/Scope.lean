import EntitySchema.Proofs.ImportedNames
import EntitySchema.Proofs.Outline

/-!
# Scope and initialization order

Modules that import each other through the barrel are initialized in an order that nobody
controls.  A name that is evaluated during initialization therefore has to come from an earlier
statement of its own module or from a module outside the cycle.  Names of related entities are
bound as well, but only types and lazy expressions mention them.
-/

namespace EntitySchema

namespace Code

/-- The names that a module imports from anywhere but the barrel. -/
def Module.earlyNames (unit : Module) : List String :=
  (unit.imports.filter fun declaration =>
    declaration.source != Imports.barrelSpecifier).flatMap Import.symbols

theorem Module.mem_earlyNames
    {unit : Module}
    {name : String} :
    name ∈ unit.earlyNames ↔
      ∃ declaration ∈ unit.imports,
        declaration.source ≠ Imports.barrelSpecifier ∧ name ∈ declaration.symbols := by
  simp [earlyNames, and_assoc]

/-- Every name of a text is bound already, or the text is not evaluated during initialization and
the name is one of those that may be bound later. -/
def Use.Resolves (bound deferrable : List String) (use : Use) : Prop :=
  ∀ name ∈ Fragment.identifiers use.fragments,
    name ∈ bound ∨ use.phase ≠ .initialization ∧ name ∈ deferrable

instance (bound deferrable : List String) (use : Use) :
    Decidable (use.Resolves bound deferrable) :=
  inferInstanceAs (Decidable (∀ name ∈ Fragment.identifiers use.fragments, _))

/-- Every statement finds its names among the imported ones and those declared before it.  What is
not evaluated during initialization may also name the statement itself and related entities. -/
def ScopedAfter (imported related : List String) : List String -> List Part -> Prop
  | _, [] => True
  | declared, part :: rest =>
      (∀ use ∈ part.uses,
        use.Resolves (imported ++ declared) (part.statement.declaredName?.toList ++ related)) ∧
      ScopedAfter imported related (declared ++ part.statement.declaredName?.toList) rest

instance decidableScopedAfter (imported related : List String) :
    (declared : List String) -> (parts : List Part) ->
      Decidable (ScopedAfter imported related declared parts)
  | _, [] => isTrue trivial
  | declared, part :: rest =>
      haveI := decidableScopedAfter imported related
        (declared ++ part.statement.declaredName?.toList) rest
      inferInstanceAs (Decidable (_ ∧ _))

theorem Use.Resolves.mono
    {use : Use}
    {bound largerBound deferrable largerDeferrable : List String}
    (resolves : use.Resolves bound deferrable)
    (boundLarger : bound ⊆ largerBound)
    (deferrableLarger : deferrable ⊆ largerDeferrable) :
    use.Resolves largerBound largerDeferrable := by
  intro name used
  rcases resolves name used with found | ⟨later, found⟩
  · exact .inl (boundLarger found)
  · exact .inr ⟨later, deferrableLarger found⟩

private theorem append_subset_append
    {first largerFirst second largerSecond : List String}
    (firstLarger : first ⊆ largerFirst)
    (secondLarger : second ⊆ largerSecond) :
    first ++ second ⊆ largerFirst ++ largerSecond :=
  List.append_subset.mpr
    ⟨List.Subset.trans firstLarger (List.subset_append_left _ _),
      List.Subset.trans secondLarger (List.subset_append_right _ _)⟩

/-- More names in scope do no harm. -/
theorem ScopedAfter.mono
    {imported largerImported related largerRelated declared largerDeclared : List String}
    {parts : List Part}
    (inScope : ScopedAfter imported related declared parts)
    (importedLarger : imported ⊆ largerImported)
    (relatedLarger : related ⊆ largerRelated)
    (declaredLarger : declared ⊆ largerDeclared) :
    ScopedAfter largerImported largerRelated largerDeclared parts := by
  induction parts generalizing declared largerDeclared with
  | nil => trivial
  | cons part rest inductionHypothesis =>
      obtain ⟨resolves, restInScope⟩ := inScope
      refine ⟨?_, inductionHypothesis restInScope ?_⟩
      · intro use member
        refine (resolves use member).mono ?_ ?_
        · exact append_subset_append importedLarger declaredLarger
        · exact append_subset_append (List.Subset.refl _) relatedLarger
      · exact append_subset_append declaredLarger (List.Subset.refl _)

/-- The names that the statements of parts declare. -/
def declaredNames (parts : List Part) : List String :=
  parts.filterMap fun part => part.statement.declaredName?

theorem scopedAfter_append
    {imported related declared : List String}
    {first second : List Part} :
    ScopedAfter imported related declared (first ++ second) ↔
      ScopedAfter imported related declared first ∧
        ScopedAfter imported related (declared ++ declaredNames first) second := by
  induction first generalizing declared with
  | nil => simp [ScopedAfter, declaredNames]
  | cons part rest inductionHypothesis =>
      have declaredCons :
          declaredNames (part :: rest) =
            part.statement.declaredName?.toList ++ declaredNames rest := by
        rw [declaredNames, List.filterMap_cons]
        cases part.statement.declaredName? <;> rfl
      rw [List.cons_append, ScopedAfter, inductionHypothesis, ScopedAfter, declaredCons,
        List.append_assoc, and_assoc]

/-- A part in scope resolves its names from the parts before it. -/
theorem ScopedAfter.resolves
    {imported related : List String}
    {earlier later : List Part}
    {part : Part}
    (inScope : ScopedAfter imported related [] (earlier ++ part :: later)) :
    ∀ use ∈ part.uses,
      use.Resolves (imported ++ declaredNames earlier)
        (part.statement.declaredName?.toList ++ related) :=
  (scopedAfter_append.mp inScope).2.1

end Code

open Code (Fragment Part Use ScopedAfter)

/-! ## Names in fixed text -/

theorem eq_root_of_mem
    {text name : String}
    (member : name ∈ Fragment.identifiers (Fragment.ofFixed text))
    (onlyRoot : ∀ used ∈ Fragment.identifiers (Fragment.ofFixed text), used = "z") :
    name = "z" :=
  onlyRoot name member

/-- A scalar names the validator library or its helper schema. -/
theorem ScalarType.name_of_mem_expression
    {options : FieldOptions}
    {type : ScalarType}
    {name : String}
    (member : name ∈ Fragment.identifiers (Fragment.ofFixed (type.expression options))) :
    name = "z" ∨
      type = .json ∧ name = jsonSchemaName ∨
      type = .decimal ∧ options.useDecimalLibrary ∧ name = decimalSchemaName := by
  cases type with
  | string | int | bigInt | float | boolean | bytes | unsupported _ =>
      simp only [expression, unknownValidator] at member
      exact .inl (eq_root_of_mem member (by decide))
  | dateTime =>
      simp only [expression] at member
      cases mode : options.dateTimeMode <;> rw [mode] at member <;>
        exact .inl (eq_root_of_mem member (by decide))
  | json =>
      have only : Fragment.identifiers (Fragment.ofFixed jsonSchemaName) = [jsonSchemaName] := by
        decide
      simp only [expression, only, List.mem_singleton] at member
      exact .inr (.inl ⟨rfl, member⟩)
  | decimal =>
      simp only [expression] at member
      split_ifs at member with used
      · have only :
            Fragment.identifiers (Fragment.ofFixed decimalSchemaName) = [decimalSchemaName] := by
          decide
        rw [only, List.mem_singleton] at member
        exact .inr (.inr ⟨rfl, used, member⟩)
      · exact .inl (eq_root_of_mem member (by decide))

namespace Field

theorem identifiers_listModifiers (field : Field) :
    Fragment.identifiers (callFragments field.listModifiers) = [] := by
  rw [listModifiers]
  cases field.isList <;> decide

theorem identifiers_nullabilityModifiers
    (options : FieldOptions)
    (field : Field) :
    Fragment.identifiers (callFragments (field.nullabilityModifiers options)) = [] := by
  rw [nullabilityModifiers]
  split_ifs
  · cases options.nullability <;> decide
  · rfl

theorem identifiers_directiveFragments (calls : List String) :
    Fragment.identifiers (directiveFragments calls) = [] := by
  induction calls with
  | nil => rfl
  | cons call rest inductionHypothesis =>
      change Fragment.identifiers (.fixed "." :: .directive call :: directiveFragments rest) = []
      rw [Fragment.identifiers_cons, Fragment.identifiers_cons, inductionHypothesis]
      rfl

/-- The names of a field's validator are those of its first part. -/
theorem identifiers_fragments
    (options : FieldOptions)
    (schema : RelationSchema)
    (field : Field) :
    Fragment.identifiers (field.fragments options schema) =
      Fragment.identifiers (field.baseFragments options schema) := by
  rw [fragments, Fragment.identifiers_append, Fragment.identifiers_append,
    Fragment.identifiers_append, identifiers_listModifiers, identifiers_directiveFragments,
    identifiers_nullabilityModifiers, List.append_nil, List.append_nil, List.append_nil]

/-- A field whose expression is replaced names nothing; any other names what its kind names. -/
theorem mem_identifiers_fragments
    {options : FieldOptions}
    {schema : RelationSchema}
    {field : Field}
    {name : String} :
    name ∈ Fragment.identifiers (field.fragments options schema) ↔
      field.docs.replacement? = none ∧
        name ∈ Fragment.identifiers (field.kind.fragments options schema) := by
  rw [identifiers_fragments, baseFragments]
  cases field.docs.replacement? <;> simp [Fragment.identifier?, Fragment.identifiers]

end Field

/-- The entities that relations of an entity lead to. -/
def Entity.targets (entity : Entity) : List String :=
  entity.fields.filterMap fun field => field.kind.relationTarget?

/-- The names that the relations of an entity need, where relations are followed. -/
def Entity.relationNames (configuration : Configuration) (entity : Entity) : List String :=
  if entity.hasRelatedSchema configuration then
    entity.targets.flatMap (Imports.relationSymbols (.ofConfiguration configuration))
  else []

namespace EntityModule

variable
  {configuration : Configuration}
  {layout : FileLayout}
  {model : DataModel}
  {entity : Entity}
  {bound deferrable imported related declared : List String}

/-! ## Stages -/

theorem jsonHelper_scoped
    (root : "z" ∈ imported) :
    ScopedAfter imported related declared (stageParts configuration entity .jsonHelper) := by
  have closed : ScopedAfter ["z"] [] [] (stageParts configuration entity .jsonHelper) := by
    simp only [stageParts, stageStatements]
    split_ifs
    · cases configuration.excludeJsonNull <;> decide +kernel
    · trivial
  exact closed.mono (by simpa using root) (List.nil_subset _) (List.nil_subset _)

theorem decimalHelper_scoped
    (root : "z" ∈ imported)
    (library :
      configuration.useDecimalLibrary → entity.usesScalar .decimal → "Decimal" ∈ imported) :
    ScopedAfter imported related declared (stageParts configuration entity .decimalHelper) := by
  simp only [stageParts, stageStatements]
  split_ifs with used
  · have closed : ScopedAfter ["z", "Decimal"] [] [] (HelperSchemas.decimal.map Part.ofFixed) := by
      decide +kernel
    rw [Bool.and_eq_true] at used
    have both : ["z", "Decimal"] ⊆ imported := by
      simpa using And.intro root (library used.1 used.2)
    exact closed.mono both (List.nil_subset _) (List.nil_subset _)
  · trivial

/-- What the base schema names is the validator library, an enum or a helper schema. -/
theorem baseSchema_scoped
    (root : "z" ∈ imported)
    (enums : entity.enumNames ⊆ imported)
    (helpers : entity.helperNames configuration ⊆ declared) :
    ScopedAfter imported related declared (stageParts configuration entity .baseSchema) := by
  refine ⟨?_, trivial⟩
  intro use member name used
  refine .inl ?_
  rw [basePart, List.mem_cons] at member
  rcases member with rfl | member
  · rw [eq_root_of_mem used (by decide)]
    exact List.mem_append_left _ root
  · obtain ⟨field, fieldMember, rfl⟩ := List.mem_map.mp member
    obtain ⟨fieldOf, notRelation⟩ := List.mem_filter.mp fieldMember
    obtain ⟨-, used⟩ := Field.mem_identifiers_fragments.mp used
    cases kind : field.kind with
    | scalar type =>
        rw [kind] at used
        rcases ScalarType.name_of_mem_expression used with rfl | ⟨rfl, rfl⟩ | ⟨rfl, library, rfl⟩
        · exact List.mem_append_left _ root
        · have json : entity.usesScalar .json = true :=
            List.any_eq_true.mpr ⟨field, fieldOf, by simp [kind]⟩
          refine List.mem_append_right _ (helpers ?_)
          simp [Entity.helperNames, json]
        · have decimal : entity.usesScalar .decimal = true :=
            List.any_eq_true.mpr ⟨field, fieldOf, by simp [kind]⟩
          have enabled : configuration.useDecimalLibrary = true := library
          refine List.mem_append_right _ (helpers ?_)
          simp [Entity.helperNames, decimal, enabled]
    | enumeration enumName =>
        have onlyNames :
            Fragment.identifiers
              (FieldKind.fragments (.ofConfiguration configuration) .base
                (.enumeration enumName)) = ["z", enumName] := by
          rw [FieldKind.fragments, Fragment.identifiers_append, Fragment.identifiers_cons,
            show Fragment.identifiers (Fragment.ofFixed "z.nativeEnum(") = ["z"] by decide,
            show Fragment.identifiers (Fragment.ofFixed ")") = [] by decide]
          rfl
        rw [kind, onlyNames, List.mem_pair] at used
        rcases used with rfl | rfl
        · exact List.mem_append_left _ root
        · refine List.mem_append_left _ (enums ?_)
          rw [Entity.mem_enumNames]
          exact ⟨field, fieldOf, by simp [kind, FieldKind.enumName?]⟩
    | relation target =>
        simp [Field.isRelation, kind, FieldKind.isRelation] at notRelation

theorem mem_targets_of_relationField
    {field : Field}
    {target : String}
    (member : field ∈ entity.relationFields)
    (leads : field.kind.relationTarget? = some target) :
    target ∈ entity.targets :=
  List.mem_filterMap.mpr ⟨field, (List.mem_filter.mp member).1, leads⟩

/-- A companion type names the base schema and the companion types of related entities. -/
theorem companionPart_resolves
    {companion : String -> String}
    {word : String}
    (onlyRoot : ∀ used ∈ Fragment.identifiers (Fragment.ofFixed word), used = "z")
    (root : "z" ∈ bound)
    (base : (SchemaNames.ofConfiguration configuration).base entity.name ∈ bound)
    (companions : ∀ target ∈ entity.targets, companion target ∈ deferrable) :
    ∀ use ∈ (companionPart configuration companion word entity).uses,
      use.Resolves bound deferrable := by
  intro use member name used
  simp only [companionPart, List.mem_cons, List.mem_map, List.mem_filterMap] at member
  rcases member with rfl | ⟨fragments, ⟨field, fieldMember, found⟩, rfl⟩
  · have closing : Fragment.identifiers (Fragment.ofFixed ">") = [] := by decide
    simp only [Fragment.identifiers_append, Fragment.identifiers_cons, closing, List.append_nil,
      List.mem_append, Fragment.identifier?, Option.toList_some, List.mem_singleton] at used
    rcases used with fixed | rfl
    · rw [onlyRoot name fixed]
      exact .inl root
    · exact .inl base
  · rw [companionFragments, Option.map_eq_some_iff] at found
    obtain ⟨target, leads, rfl⟩ := found
    have listMark :
        Fragment.identifiers (Fragment.ofFixed (if field.isList then "[]" else "")) = [] := by
      cases field.isList <;> decide
    have nullMark :
        Fragment.identifiers (Fragment.ofFixed (if field.isRequired then "" else " | null")) =
          [] := by
      cases field.isRequired <;> decide
    simp only [Fragment.identifiers_cons, Fragment.identifiers_append, listMark, nullMark,
      List.append_nil, Fragment.identifier?, Option.toList_some, List.mem_singleton] at used
    rw [used]
    exact .inr ⟨by simp, companions target (mem_targets_of_relationField fieldMember leads)⟩

/-- The relation-aware schema names its own companion types, the base schema and, once it is
used, the relation-aware schemas of related entities. -/
theorem relatedPart_resolves
    (root : "z" ∈ bound)
    (base : (SchemaNames.ofConfiguration configuration).base entity.name ∈ bound)
    (input : SchemaNames.completeInput entity.name ∈ bound)
    (output : SchemaNames.completeOutput entity.name ∈ bound)
    (schemas :
      ∀ target ∈ entity.targets,
        (SchemaNames.ofConfiguration configuration).related target ∈ deferrable) :
    ∀ use ∈ (relatedPart configuration entity).uses, use.Resolves bound deferrable := by
  intro use member name used
  simp only [relatedPart, List.mem_cons, List.mem_map] at member
  rcases member with rfl | rfl | rfl | ⟨field, fieldMember, rfl⟩
  · simp only [Fragment.identifiers_append, Fragment.identifiers_cons,
      show Fragment.identifiers (Fragment.ofFixed "z.ZodSchema<") = ["z"] by decide,
      show Fragment.identifiers (Fragment.ofFixed ", z.ZodTypeDef, ") = ["z"] by decide,
      show Fragment.identifiers (Fragment.ofFixed ">") = [] by decide,
      Fragment.identifier?, Option.toList_some, List.append_nil, List.mem_append,
      List.mem_singleton] at used
    rcases used with rfl | rfl | rfl | rfl
    · exact .inl root
    · exact .inl output
    · exact .inl root
    · exact .inl input
  · rw [eq_root_of_mem used (by decide)]
    exact .inl root
  · simp only [Fragment.identifiers_cons,
      show Fragment.identifiers (Fragment.ofFixed ".extend(") = [] by decide,
      Fragment.identifier?, Option.toList_some, List.append_nil, List.mem_singleton] at used
    rw [used]
    exact .inl base
  · obtain ⟨-, used⟩ := Field.mem_identifiers_fragments.mp used
    have isRelation := (List.mem_filter.mp fieldMember).2
    cases kind : field.kind with
    | relation target =>
        rw [kind] at used
        have only : name = (SchemaNames.ofConfiguration configuration).related target :=
          List.mem_singleton.mp used
        have leads : field.kind.relationTarget? = some target := by
          rw [kind]
          rfl
        rw [only]
        exact .inr ⟨by simp, schemas target (mem_targets_of_relationField fieldMember leads)⟩
    | scalar type | enumeration name =>
        simp [Field.isRelation, kind, FieldKind.isRelation] at isRelation

/-- The relation-aware schema and its companion types come after the base schema and refer to
other entities only where nothing is evaluated during initialization. -/
theorem relationArtifacts_scoped
    (root : "z" ∈ imported)
    (base : (SchemaNames.ofConfiguration configuration).base entity.name ∈ declared) :
    ScopedAfter imported (entity.relationNames configuration) declared
      (stageParts configuration entity .relationArtifacts) := by
  simp only [stageParts]
  split_ifs with followed
  · have needed (target : String) (member : target ∈ entity.targets) :
        ∀ symbol ∈ Imports.relationSymbols (.ofConfiguration configuration) target,
          symbol ∈ entity.relationNames configuration := by
      intro symbol symbolMember
      rw [Entity.relationNames, if_pos followed]
      exact List.mem_flatMap.mpr ⟨target, member, symbolMember⟩
    rw [relationParts, Code.scopedAfter_append, Code.scopedAfter_append]
    refine ⟨⟨⟨?input, ?output, by simp [Part.ofFixed, Code.Statement.texts], trivial⟩, ?ignored⟩,
      ?related, trivial⟩
    case input =>
      refine companionPart_resolves (by decide) ?_ ?_ ?_
      · exact List.mem_append_left _ root
      · exact List.mem_append_right _ base
      · intro target member
        exact List.mem_append_right _ (needed target member _ (by simp [Imports.relationSymbols]))
    case output =>
      refine companionPart_resolves (by decide) ?_ ?_ ?_
      · exact List.mem_append_left _ root
      · exact List.mem_append_right _ (List.mem_append_left _ base)
      · intro target member
        exact List.mem_append_right _ (needed target member _ (by simp [Imports.relationSymbols]))
    case ignored =>
      split_ifs
      · exact ⟨by simp [Part.ofFixed, Code.Statement.texts], trivial⟩
      · trivial
    case related =>
      -- Both companion types are declared by the time the schema is typed with them.
      refine relatedPart_resolves ?_ ?_ ?_ ?_ ?_
      · exact List.mem_append_left _ root
      · simp [base]
      · simp [Code.declaredNames, companionPart, Entity.companionInterface,
          Code.Statement.declaredName?]
      · simp [Code.declaredNames, companionPart, Entity.companionInterface,
          Code.Statement.declaredName?]
      · intro target member
        exact List.mem_append_right _ (needed target member _ (by simp [Imports.relationSymbols]))
  · trivial

/-! ## Modules -/

theorem root_mem_earlyNames :
    "z" ∈ (unchecked configuration layout entity).earlyNames := by
  rw [Code.Module.mem_earlyNames]
  exact ⟨Imports.ofValidators, Imports.mem_ofEntity.mpr (.inl rfl), by decide, by decide⟩

theorem decimal_mem_earlyNames
    (library : configuration.useDecimalLibrary)
    (used : entity.usesScalar .decimal) :
    "Decimal" ∈ (unchecked configuration layout entity).earlyNames := by
  rw [Code.Module.mem_earlyNames]
  refine ⟨{ source := "decimal.js", binding := .named ["Decimal"] }, ?_, by decide, by decide⟩
  exact Imports.mem_ofEntity.mpr (.inr (.inr (.inl
    (Imports.mem_ofDecimal.mpr ⟨⟨library, used⟩, rfl⟩))))

theorem enumNames_subset_earlyNames
    (apart : Imports.enumModule configuration layout ≠ Imports.barrelSpecifier) :
    entity.enumNames ⊆ (unchecked configuration layout entity).earlyNames := by
  intro name member
  have imported :
      ∃ declaration ∈ (unchecked configuration layout entity).imports,
        declaration.source = Imports.enumModule configuration layout ∧
          name ∈ declaration.symbols :=
    Imports.exists_enum_import member
  obtain ⟨declaration, declarationMember, source, symbol⟩ := imported
  rw [Code.Module.mem_earlyNames]
  exact ⟨declaration, declarationMember, source ▸ apart, symbol⟩

/-- Every statement of an entity's module comes after what it evaluates. -/
theorem outline_scoped
    (apart : Imports.enumModule configuration layout ≠ Imports.barrelSpecifier) :
    ScopedAfter (unchecked configuration layout entity).earlyNames
      (entity.relationNames configuration) [] (outline configuration entity) := by
  have root : "z" ∈ (unchecked configuration layout entity).earlyNames := root_mem_earlyNames
  have stages :
      outline configuration entity =
        (stageParts configuration entity .jsonHelper ++
          stageParts configuration entity .decimalHelper) ++
        (stageParts configuration entity .baseSchema ++
          stageParts configuration entity .relationArtifacts) := by
    simp [outline, Stage.all, stageParts, stageStatements]
  have helpers :
      Code.declaredNames
        (stageParts configuration entity .jsonHelper ++
          stageParts configuration entity .decimalHelper) =
        entity.helperNames configuration := by
    rw [← helperStages_declaredNames, ← stageParts_statement, ← stageParts_statement,
      ← List.map_append, List.filterMap_map]
    rfl
  rw [stages, Code.scopedAfter_append, Code.scopedAfter_append, Code.scopedAfter_append, helpers]
  refine ⟨⟨jsonHelper_scoped root, decimalHelper_scoped root decimal_mem_earlyNames⟩,
    baseSchema_scoped root (enumNames_subset_earlyNames apart) (List.Subset.refl _),
    relationArtifacts_scoped root ?_⟩
  exact List.mem_append_right _ (List.mem_singleton.mpr rfl)

/-- The names of an entity's module are bound, and bound early enough.  The outline of the entity
covers the texts of the module: what is not attributed to directives is written by the generator. -/
structure IsScoped (configuration : Configuration) (entity : Entity) (unit : Code.Module) :
    Prop where
  /-- The outline has the statements of the module. -/
  statements : (outline configuration entity).map Part.statement = unit.statements
  /-- The fragments of the outline spell the texts of the statements. -/
  spelled : ∀ part ∈ outline configuration entity, part.IsSpelled
  /-- No free name is hidden in fragments of fixed text. -/
  shown :
    ∀ part ∈ outline configuration entity, ∀ use ∈ part.uses,
      Fragment.NamesShown false use.fragments
  /-- What is attributed to documentation is the text of a directive. -/
  documented :
    ∀ part ∈ outline configuration entity, ∀ use ∈ part.uses,
      ∀ text ∈ Fragment.directives use.fragments,
        ∃ field ∈ entity.fields, ∃ directive ∈ field.docs.directives, directive.text = text
  /-- Names that are evaluated during initialization are declared by an earlier statement or
  imported from outside the barrel.  Other names may also be that of the statement itself or belong
  to a related entity. -/
  resolved :
    ∀ earlier part later, outline configuration entity = earlier ++ part :: later →
      ∀ use ∈ part.uses,
        use.Resolves (unit.earlyNames ++ Code.declaredNames earlier)
          (part.statement.declaredName?.toList ++ entity.relationNames configuration)
  /-- The names of other related entities are imported from the barrel. -/
  foreign :
    entity.hasRelatedSchema configuration → ∀ target ∈ entity.targets, target ≠ entity.name →
      ∃ declaration ∈ unit.imports,
        declaration.source = Imports.barrelSpecifier ∧
          ∀ symbol ∈ Imports.relationSymbols (.ofConfiguration configuration) target,
            symbol ∈ declaration.symbols
  /-- The names of an entity that is related to itself are declared by the module. -/
  own :
    entity.hasRelatedSchema configuration → entity.name ∈ entity.targets →
      ∀ symbol ∈ Imports.relationSymbols (.ofConfiguration configuration) entity.name,
        symbol ∈ unit.declaredNames

/-- The module of every entity that compiles is in scope, whatever the relations are, as long as
enums do not come from the barrel. -/
theorem generated_names_bound
    {unit : Code.Module}
    (compiled : ofEntity configuration layout model entity = .ok unit)
    (apart : Imports.enumModule configuration layout ≠ Imports.barrelSpecifier) :
    IsScoped configuration entity unit := by
  obtain ⟨-, rfl⟩ := ofEntity_eq_ok_iff.mp compiled
  exact
    { statements := outline_statement
      spelled := fun _ member => outline_isSpelled member
      shown := fun _ partMember _ useMember => namesShown_of_mem_outline partMember useMember
      documented := fun _ partMember _ useMember _ textMember =>
        directive_of_mem_outline partMember useMember textMember
      resolved := by
        intro earlier part later split
        have inScope :
            ScopedAfter (unchecked configuration layout entity).earlyNames
              (entity.relationNames configuration) [] (outline configuration entity) :=
          outline_scoped apart
        rw [split] at inScope
        exact inScope.resolves
      foreign := by
        intro followed target member different
        have enabled := (Bool.and_eq_true_iff.mp followed).1
        refine Imports.exists_relation_import enabled ?_
        rw [Entity.mem_foreignTargets]
        exact ⟨List.mem_filterMap.mp member, different⟩
      own := by
        intro followed _ symbol needed
        rw [declaredNames_unchecked]
        exact List.mem_append_right _ (Entity.relationSymbols_subset_exports followed needed) }

/-- An entity with helper schemas, an enum, a replaced validator, a relation to itself and one to
another entity. -/
def order : Entity where
  name := "Order"
  fields :=
    [ { name := "price", kind := .scalar .decimal },
      { name := "notes", kind := .scalar .json, isRequired := false },
      { name := "status", kind := .enumeration "Status" },
      { name := "code", kind := .scalar .string
        documentation := some "@zod.custom(imports.code).max(8)" },
      { name := "replaces", kind := .relation "Order", isRequired := false },
      { name := "customer", kind := .relation "Customer" } ]

/-- Orders and customers, each related to the other. -/
def orders : DataModel where
  entities :=
    [ order,
      { name := "Customer"
        fields := [{ name := "orders", kind := .relation "Order", isList := true }] } ]
  enums := [{ name := "Status", values := [{ name := "OPEN" }, { name := "SENT" }] }]

/-- Generation with the decimal library and a module of enums. -/
def ordersConfiguration : Configuration :=
  { useDecimalLibrary := true, enumFile := some "enums", imports := some "./helpers" }

/-- A layout with the data model, the modules and the client in places of their own. -/
def ordersLayout : FileLayout where
  schema := "/shop/schema.prisma"
  output := "/shop/zod"
  client := "/shop/node_modules/.prisma/client"

theorem generated_names_bound_order :
    ofEntity ordersConfiguration ordersLayout orders order =
        .ok (unchecked ordersConfiguration ordersLayout order) ∧
      Imports.enumModule ordersConfiguration ordersLayout ≠ Imports.barrelSpecifier ∧
      IsScoped ordersConfiguration order (unchecked ordersConfiguration ordersLayout order) := by
  have compiled :
      ofEntity ordersConfiguration ordersLayout orders order =
        .ok (unchecked ordersConfiguration ordersLayout order) :=
    ofEntity_eq_ok_iff.mpr ⟨by decide, rfl⟩
  have apart : Imports.enumModule ordersConfiguration ordersLayout ≠ Imports.barrelSpecifier := by
    decide
  exact ⟨compiled, apart, generated_names_bound compiled apart⟩

end EntityModule
end EntitySchema
