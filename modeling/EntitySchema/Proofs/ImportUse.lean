import EntitySchema.Proofs.Scope
import EntitySchema.Proofs.WrittenDocumentation

/-!
# Use of imported names

What a module imports is decided by the kinds of all fields and by all of their directives.  What
its statements refer to also depends on which directives take effect and on which fields are
emitted.  The imports are all used exactly when the two agree on enums, on the relation-aware
schemas of other entities and on the module of user helpers.
-/

namespace EntitySchema

namespace Imports

/-- Occurrence is that of a list in another one. -/
theorem occursIn_iff_isInfix
    {part text : List Char} :
    occursIn part text ↔ part <:+: text := by
  induction text with
  | nil => simp [occursIn]
  | cons character rest inductionHypothesis =>
      rw [occursIn, Bool.or_eq_true, inductionHypothesis, List.isPrefixOf_iff_prefix,
        List.infix_cons_iff]

theorem mem_ofHelpers
    {configuration : Configuration}
    {layout : FileLayout}
    {entity : Entity}
    {declaration : Code.Import} :
    declaration ∈ ofHelpers configuration layout entity ↔
      ∃ path, configuration.imports = some path ∧ entity.fields.any mentionsHelpers ∧
        declaration =
          { source := layout.schemaSpecifier path, binding := .whole helperNamespace } := by
  rw [ofHelpers]
  cases configuration.imports with
  | none => simp
  | some path =>
      dsimp only
      split_ifs with mentioned <;> simp [mentioned]

end Imports

namespace Code

/-! ## References -/

/-- The names that the generator writes in the texts of parts. -/
def writtenNames (parts : List Part) : List String :=
  parts.flatMap fun part => part.uses.flatMap fun use => Fragment.identifiers use.fragments

/-- The texts that documentation contributes to parts. -/
def contributedTexts (parts : List Part) : List String :=
  parts.flatMap fun part => part.uses.flatMap fun use => Fragment.directives use.fragments

/-- The generator writes a symbol as a name, or documentation contributes a text in which it
occurs. -/
def RefersTo (parts : List Part) (symbol : String) : Prop :=
  symbol ∈ writtenNames parts ∨
    ∃ text ∈ contributedTexts parts, Imports.occursIn symbol.toList text.toList

/-- A symbol occurs in a text of the statements of a module. -/
def Module.Mentions (unit : Module) (symbol : String) : Prop :=
  ∃ statement ∈ unit.statements, ∃ text ∈ statement.texts,
    Imports.occursIn symbol.toList text.2.toList

instance (unit : Module) (symbol : String) : Decidable (unit.Mentions symbol) :=
  inferInstanceAs (Decidable (∃ statement ∈ unit.statements, _))

theorem Fragment.isInfix_joined
    {fragments : List Fragment}
    {fragment : Fragment}
    (member : fragment ∈ fragments) :
    fragment.text.toList <:+: (joined fragments).toList := by
  obtain ⟨before, after, rfl⟩ := List.append_of_mem member
  refine ⟨(joined before).toList, (joined after).toList, ?_⟩
  simp

/-- What the parts of a module refer to occurs in its statements. -/
theorem RefersTo.mentions
    {parts : List Part}
    {unit : Module}
    {symbol : String}
    (refers : RefersTo parts symbol)
    (statements : parts.map Part.statement = unit.statements)
    (spelled : ∀ part ∈ parts, part.IsSpelled) :
    unit.Mentions symbol := by
  -- A symbol inside one fragment of a part occurs in the text that the fragment belongs to.
  have shown :
      ∀ part ∈ parts, ∀ use ∈ part.uses, ∀ fragment ∈ use.fragments,
        symbol.toList <:+: fragment.text.toList → unit.Mentions symbol := by
    intro part partMember use useMember fragment fragmentMember within
    refine ⟨part.statement, ?_, use.spelled, ?_, ?_⟩
    · rw [← statements]
      exact List.mem_map_of_mem partMember
    · rw [spelled part partMember]
      exact List.mem_map_of_mem useMember
    · rw [Imports.occursIn_iff_isInfix]
      exact within.trans (Fragment.isInfix_joined fragmentMember)
  rcases refers with written | ⟨text, contributed, occurs⟩
  · obtain ⟨part, partMember, member⟩ := List.mem_flatMap.mp written
    obtain ⟨use, useMember, member⟩ := List.mem_flatMap.mp member
    obtain ⟨fragment, fragmentMember, named⟩ := List.mem_filterMap.mp member
    apply shown part partMember use useMember fragment fragmentMember
    cases fragment with
    | identifier name =>
        cases named
        exact List.infix_refl _
    | fixed text => cases named
    | directive text => cases named
  · obtain ⟨part, partMember, member⟩ := List.mem_flatMap.mp contributed
    obtain ⟨use, useMember, member⟩ := List.mem_flatMap.mp member
    obtain ⟨fragment, fragmentMember, contributes⟩ := List.mem_filterMap.mp member
    apply shown part partMember use useMember fragment fragmentMember
    cases fragment with
    | directive contribution =>
        cases contributes
        exact Imports.occursIn_iff_isInfix.mp occurs
    | fixed text => cases contributes
    | identifier name => cases contributes

theorem writtenNames_append (first second : List Part) :
    writtenNames (first ++ second) = writtenNames first ++ writtenNames second :=
  List.flatMap_append

theorem contributedTexts_append (first second : List Part) :
    contributedTexts (first ++ second) = contributedTexts first ++ contributedTexts second :=
  List.flatMap_append

/-- Documentation contributes nothing to statements with fixed text. -/
theorem contributedTexts_ofFixed (statements : List Statement) :
    contributedTexts (statements.map Part.ofFixed) = [] := by
  unfold contributedTexts
  rw [List.flatMap_eq_nil_iff]
  intro part partMember
  obtain ⟨statement, -, rfl⟩ := List.mem_map.mp partMember
  rw [List.flatMap_eq_nil_iff]
  intro use useMember
  exact Part.directives_ofFixed useMember

end Code

open Code (Fragment Part Use RefersTo writtenNames contributedTexts)

/-! ## What fields refer to -/

/-- The names in the expression that is inferred from a kind, besides the validator library. -/
def FieldKind.names (options : FieldOptions) : FieldKind -> List String
  | scalar .json => [jsonSchemaName]
  | scalar .decimal => if options.useDecimalLibrary then [decimalSchemaName] else []
  | scalar _ => []
  | enumeration name => [name]
  | relation target => [options.names.related target]

/-- Only relations look at which schema of their target is meant. -/
theorem FieldKind.fragments_base
    {options : FieldOptions}
    {kind : FieldKind}
    (notRelation : !kind.isRelation) :
    kind.fragments options .base = kind.fragments options .related := by
  cases kind with
  | relation target => cases notRelation
  | scalar type => rfl
  | enumeration name => rfl

/-- The expression of a kind names the validator library and what the kind names. -/
theorem FieldKind.mem_identifiers_fragments
    {options : FieldOptions}
    {kind : FieldKind}
    {name : String}
    (different : name ≠ "z") :
    name ∈ Fragment.identifiers (kind.fragments options .related) ↔ name ∈ kind.names options := by
  cases kind with
  | scalar type =>
      constructor
      · intro written
        rcases ScalarType.name_of_mem_expression written with
          root | ⟨rfl, rfl⟩ | ⟨rfl, library, rfl⟩
        · exact absurd root different
        · exact List.mem_singleton.mpr rfl
        · rw [names, if_pos library]
          exact List.mem_singleton.mpr rfl
      · intro named
        cases type with
        | json =>
            rw [List.mem_singleton.mp named, fragments, ScalarType.expression]
            decide
        | decimal =>
            rw [names] at named
            split_ifs at named with library
            · rw [List.mem_singleton.mp named, fragments, ScalarType.expression, if_pos library]
              decide
            · cases named
        | string | int | bigInt | float | boolean | dateTime | bytes | unsupported =>
            cases named
  | enumeration enumName =>
      have written :
          Fragment.identifiers ((FieldKind.enumeration enumName).fragments options .related) =
            ["z", enumName] := by
        rw [fragments, Fragment.identifiers_append, Fragment.identifiers_cons,
          show Fragment.identifiers (Fragment.ofFixed "z.nativeEnum(") = ["z"] by decide,
          show Fragment.identifiers (Fragment.ofFixed ")") = [] by decide]
        rfl
      rw [written, List.mem_cons, or_iff_right different]
      rfl
  | relation target => exact Iff.rfl

namespace Field

/-- Documentation contributes to the validator of a field what takes effect. -/
theorem directives_fragments
    (options : FieldOptions)
    (schema : RelationSchema)
    (field : Field) :
    Fragment.directives (field.fragments options schema) = field.docs.effective := by
  have base :
      Fragment.directives (field.baseFragments options schema) =
        field.docs.replacement?.toList := by
    rw [baseFragments]
    cases field.docs.replacement? with
    | none => exact FieldKind.directives_fragments options schema field.kind
    | some expression => rfl
  rw [fragments, Fragment.directives_append, Fragment.directives_append,
    Fragment.directives_append, base, directives_callFragments, directives_directiveFragments,
    directives_callFragments, List.append_nil, List.append_nil, Documentation.effective]

end Field

/-! ## What entities refer to -/

namespace Entity

/-- The fields that have a validator in the module of an entity. -/
def emittedFields (configuration : Configuration) (entity : Entity) : List Field :=
  entity.scalarFields ++
    if entity.hasRelatedSchema configuration then entity.relationFields else []

/-- The names that the module of an entity writes whatever the documentation of its fields
says. -/
def standingNames (configuration : Configuration) (entity : Entity) : List String :=
  "z" ::
  (if entity.usesScalar .json then ["Literal", "Json", "literalSchema", jsonSchemaName] else []) ++
  (if configuration.useDecimalLibrary && entity.usesScalar .decimal then ["Decimal"] else []) ++
  (if entity.hasRelatedSchema configuration then
    (SchemaNames.ofConfiguration configuration).base entity.name ::
      (entity.name :: entity.targets).flatMap fun name =>
        [SchemaNames.completeInput name, SchemaNames.completeOutput name]
  else [])

/-- An entity needs a symbol: its module writes the symbol in any case, or a field with a validator
in the module names it and is not replaced, or a directive that takes effect mentions it. -/
def Needs (configuration : Configuration) (entity : Entity) (symbol : String) : Prop :=
  symbol ∈ entity.standingNames configuration ∨
    ∃ field ∈ entity.emittedFields configuration,
      field.docs.replacement? = none ∧
          symbol ∈ field.kind.names (.ofConfiguration configuration) ∨
        ∃ text ∈ field.docs.effective, Imports.occursIn symbol.toList text.toList

instance (configuration : Configuration) (entity : Entity) (symbol : String) :
    Decidable (entity.Needs configuration symbol) :=
  inferInstanceAs (Decidable (_ ∨ ∃ field ∈ entity.emittedFields configuration, _))

variable
  {configuration : Configuration}
  {entity : Entity}
  {symbol : String}

theorem mem_standingNames :
    symbol ∈ entity.standingNames configuration ↔
      symbol = "z" ∨
        entity.usesScalar .json ∧
          symbol ∈ ["Literal", "Json", "literalSchema", jsonSchemaName] ∨
        (configuration.useDecimalLibrary && entity.usesScalar .decimal) ∧ symbol = "Decimal" ∨
        entity.hasRelatedSchema configuration ∧
          (symbol = (SchemaNames.ofConfiguration configuration).base entity.name ∨
            ∃ name ∈ entity.name :: entity.targets,
              symbol = SchemaNames.completeInput name ∨
                symbol = SchemaNames.completeOutput name) := by
  simp only [standingNames, List.cons_append, List.mem_cons, List.mem_append,
    List.mem_ite_nil_right, List.mem_flatMap, List.not_mem_nil, or_false, or_assoc]

theorem exists_mem_emittedFields
    {property : Field -> Prop} :
    (∃ field ∈ entity.emittedFields configuration, property field) ↔
      (∃ field ∈ entity.scalarFields, property field) ∨
        entity.hasRelatedSchema configuration ∧
          ∃ field ∈ entity.relationFields, property field := by
  rw [emittedFields]
  split_ifs with related
  · simp [related, or_and_right, exists_or]
  · simp [related]

theorem exists_scalarField_names
    (different : symbol ≠ "z") :
    (∃ field ∈ entity.scalarFields,
        symbol ∈ Fragment.identifiers (field.fragments (.ofConfiguration configuration) .base)) ↔
      ∃ field ∈ entity.scalarFields,
        field.docs.replacement? = none ∧
          symbol ∈ field.kind.names (.ofConfiguration configuration) := by
  constructor
  · rintro ⟨field, member, written⟩
    obtain ⟨unreplaced, written⟩ := Field.mem_identifiers_fragments.mp written
    rw [FieldKind.fragments_base (List.mem_filter.mp member).2] at written
    exact ⟨field, member, unreplaced, (FieldKind.mem_identifiers_fragments different).mp written⟩
  · rintro ⟨field, member, unreplaced, named⟩
    refine ⟨field, member, Field.mem_identifiers_fragments.mpr ⟨unreplaced, ?_⟩⟩
    rw [FieldKind.fragments_base (List.mem_filter.mp member).2]
    exact (FieldKind.mem_identifiers_fragments different).mpr named

theorem exists_relationField_names
    (different : symbol ≠ "z") :
    (∃ field ∈ entity.relationFields,
        symbol ∈
          Fragment.identifiers (field.fragments (.ofConfiguration configuration) .related)) ↔
      ∃ field ∈ entity.relationFields,
        field.docs.replacement? = none ∧
          symbol ∈ field.kind.names (.ofConfiguration configuration) := by
  simp only [Field.mem_identifiers_fragments, FieldKind.mem_identifiers_fragments different]

end Entity

namespace EntityModule

variable
  {configuration : Configuration}
  {layout : FileLayout}
  {model : DataModel}
  {entity : Entity}
  {symbol : String}

/-- The comments in front of a relation-aware schema. -/
def relationComments (configuration : Configuration) (entity : Entity) : List Code.Statement :=
  .blockComment
      (Entity.relatedSchemaComment
        ((SchemaNames.ofConfiguration configuration).related entity.name)) ::
    if configuration.ignoreRelationTypes then [.lineComment ["@ts-ignore"]] else []

theorem outline_stages :
    outline configuration entity =
      stageParts configuration entity .jsonHelper ++
        (stageParts configuration entity .decimalHelper ++
          ([basePart configuration entity] ++
            stageParts configuration entity .relationArtifacts)) := by
  simp [outline, Stage.all, stageParts, stageStatements]

/-- Between the companion types and the relation-aware schema there are only comments. -/
theorem relationParts_comments :
    relationParts configuration entity =
      [companionPart configuration SchemaNames.completeInput "z.input<typeof " entity] ++
        ([companionPart configuration SchemaNames.completeOutput "z.infer<typeof " entity] ++
          ((relationComments configuration entity).map Part.ofFixed ++
            [relatedPart configuration entity])) := by
  unfold relationParts relationComments
  cases configuration.ignoreRelationTypes <;> rfl

/-! ## Contributions of documentation -/

theorem contributedTexts_basePart :
    contributedTexts [basePart configuration entity] =
      entity.scalarFields.flatMap fun field => field.docs.effective := by
  simp [contributedTexts, basePart, List.flatMap_map, Field.directives_fragments]

theorem contributedTexts_relationParts :
    contributedTexts (relationParts configuration entity) =
      entity.relationFields.flatMap fun field => field.docs.effective := by
  have types : ∀ companion word,
      contributedTexts [companionPart configuration companion word entity] = [] := by
    intro companion word
    unfold contributedTexts
    rw [List.flatMap_singleton, List.flatMap_eq_nil_iff]
    intro use member
    exact directives_companionPart member
  have schema :
      contributedTexts [relatedPart configuration entity] =
        entity.relationFields.flatMap fun field => field.docs.effective := by
    simp [contributedTexts, relatedPart, List.flatMap_map, Field.directives_fragments,
      Fragment.directive?]
  rw [relationParts_comments, Code.contributedTexts_append, Code.contributedTexts_append,
    Code.contributedTexts_append, types, types, Code.contributedTexts_ofFixed, schema]
  rfl

/-- What documentation contributes to a module takes effect in a field that it emits. -/
theorem contributedTexts_outline :
    contributedTexts (outline configuration entity) =
      (entity.emittedFields configuration).flatMap fun field => field.docs.effective := by
  have json : contributedTexts (stageParts configuration entity .jsonHelper) = [] :=
    Code.contributedTexts_ofFixed _
  have decimal : contributedTexts (stageParts configuration entity .decimalHelper) = [] :=
    Code.contributedTexts_ofFixed _
  rw [outline_stages, Code.contributedTexts_append, Code.contributedTexts_append,
    Code.contributedTexts_append, json, decimal, contributedTexts_basePart, List.nil_append,
    List.nil_append, Entity.emittedFields, List.flatMap_append, stageParts]
  split_ifs
  · rw [contributedTexts_relationParts]
  · rfl

/-! ## Names that modules write -/

theorem mem_writtenNames_jsonHelper :
    symbol ∈ writtenNames (stageParts configuration entity .jsonHelper) ↔
      entity.usesScalar .json ∧
        symbol ∈ ["z", "Literal", "Json", "literalSchema", jsonSchemaName] := by
  have closed : ∀ excludeNull : Bool,
      writtenNames ((HelperSchemas.json excludeNull).map Part.ofFixed) ⊆
          ["z", "Literal", "Json", "literalSchema", jsonSchemaName] ∧
        ["z", "Literal", "Json", "literalSchema", jsonSchemaName] ⊆
          writtenNames ((HelperSchemas.json excludeNull).map Part.ofFixed) := by
    decide +kernel
  obtain ⟨sound, complete⟩ := closed configuration.excludeJsonNull
  simp only [stageParts, stageStatements]
  split_ifs with json
  · rw [and_iff_right json]
    exact ⟨fun written => sound written, fun listed => complete listed⟩
  · simp [json, writtenNames]

theorem mem_writtenNames_decimalHelper :
    symbol ∈ writtenNames (stageParts configuration entity .decimalHelper) ↔
      (configuration.useDecimalLibrary && entity.usesScalar .decimal) ∧
        symbol ∈ ["z", "Decimal"] := by
  have sound :
      writtenNames (HelperSchemas.decimal.map Part.ofFixed) ⊆ ["z", "Decimal"] := by
    decide +kernel
  have complete :
      ["z", "Decimal"] ⊆ writtenNames (HelperSchemas.decimal.map Part.ofFixed) := by
    decide +kernel
  simp only [stageParts, stageStatements]
  split_ifs with decimal
  · rw [and_iff_right decimal]
    exact ⟨fun written => sound written, fun listed => complete listed⟩
  · simp [decimal, writtenNames]

theorem mem_writtenNames_basePart :
    symbol ∈ writtenNames [basePart configuration entity] ↔
      symbol = "z" ∨ ∃ field ∈ entity.scalarFields,
        symbol ∈ Fragment.identifiers (field.fragments (.ofConfiguration configuration) .base) := by
  have root : Fragment.identifiers (Fragment.ofFixed "z.object(") = ["z"] := by decide
  simp [writtenNames, basePart, List.flatMap_map, root]

/-- Every target is that of a relation, and relations are the fields that have one. -/
theorem mem_targets_iff
    {target : String} :
    target ∈ entity.targets ↔
      ∃ field ∈ entity.relationFields, field.kind.relationTarget? = some target := by
  constructor
  · intro member
    obtain ⟨field, fieldMember, leads⟩ := List.mem_filterMap.mp member
    refine ⟨field, List.mem_filter.mpr ⟨fieldMember, ?_⟩, leads⟩
    rw [Field.isRelation]
    cases kind : field.kind with
    | relation target => rfl
    | scalar type =>
        rw [kind] at leads
        cases leads
    | enumeration name =>
        rw [kind] at leads
        cases leads
  · rintro ⟨field, fieldMember, leads⟩
    exact mem_targets_of_relationField fieldMember leads

/-- The type of a relation names the companion type of its target. -/
theorem mem_identifiers_companionFragments
    {companion : String -> String}
    {field : Field} :
    (∃ fragments, companionFragments companion field = some fragments ∧
        symbol ∈ Fragment.identifiers fragments) ↔
      ∃ target, field.kind.relationTarget? = some target ∧ symbol = companion target := by
  have listMark :
      Fragment.identifiers (Fragment.ofFixed (if field.isList then "[]" else "")) = [] := by
    cases field.isList <;> decide
  have nullMark :
      Fragment.identifiers (Fragment.ofFixed (if field.isRequired then "" else " | null")) =
        [] := by
    cases field.isRequired <;> decide
  rw [companionFragments]
  cases field.kind.relationTarget? with
  | none => simp
  | some target => simp [listMark, nullMark, Fragment.identifier?]

theorem mem_writtenNames_companionPart
    {companion : String -> String}
    {word : String}
    (root : Fragment.identifiers (Fragment.ofFixed word) = ["z"]) :
    symbol ∈ writtenNames [companionPart configuration companion word entity] ↔
      symbol = "z" ∨
        symbol = (SchemaNames.ofConfiguration configuration).base entity.name ∨
        ∃ target ∈ entity.targets, symbol = companion target := by
  have closing : Fragment.identifiers (Fragment.ofFixed ">") = [] := by decide
  have members :
      (∃ fragments ∈ entity.relationFields.filterMap (companionFragments companion),
          symbol ∈ Fragment.identifiers fragments) ↔
        ∃ target ∈ entity.targets, symbol = companion target := by
    constructor
    · rintro ⟨fragments, member, named⟩
      obtain ⟨field, fieldMember, found⟩ := List.mem_filterMap.mp member
      obtain ⟨target, leads, same⟩ :=
        mem_identifiers_companionFragments.mp ⟨fragments, found, named⟩
      exact ⟨target, mem_targets_iff.mpr ⟨field, fieldMember, leads⟩, same⟩
    · rintro ⟨target, member, same⟩
      obtain ⟨field, fieldMember, leads⟩ := mem_targets_iff.mp member
      obtain ⟨fragments, found, named⟩ :=
        mem_identifiers_companionFragments.mpr ⟨target, leads, same⟩
      exact ⟨fragments, List.mem_filterMap.mpr ⟨field, fieldMember, found⟩, named⟩
  rw [← members]
  simp [writtenNames, companionPart, List.flatMap_map, root, closing, Fragment.identifier?]

theorem writtenNames_comments :
    writtenNames ((relationComments configuration entity).map Part.ofFixed) = [] := by
  unfold relationComments
  cases configuration.ignoreRelationTypes <;> rfl

theorem mem_writtenNames_relatedPart :
    symbol ∈ writtenNames [relatedPart configuration entity] ↔
      symbol = "z" ∨
        symbol = (SchemaNames.ofConfiguration configuration).base entity.name ∨
        symbol = SchemaNames.completeInput entity.name ∨
        symbol = SchemaNames.completeOutput entity.name ∨
        ∃ field ∈ entity.relationFields,
          symbol ∈
            Fragment.identifiers (field.fragments (.ofConfiguration configuration) .related) := by
  have opening : Fragment.identifiers (Fragment.ofFixed "z.ZodSchema<") = ["z"] := by decide
  have between : Fragment.identifiers (Fragment.ofFixed ", z.ZodTypeDef, ") = ["z"] := by decide
  have closing : Fragment.identifiers (Fragment.ofFixed ">") = [] := by decide
  have lazily : Fragment.identifiers (Fragment.ofFixed "z.lazy(() => ") = ["z"] := by decide
  have extended : Fragment.identifiers (Fragment.ofFixed ".extend(") = [] := by decide
  simp only [writtenNames, relatedPart, List.flatMap_cons, List.flatMap_nil, List.flatMap_map,
    Fragment.identifiers_append, Fragment.identifiers_cons, opening, between, closing, lazily,
    extended, Fragment.identifier?, Option.toList_some, List.append_nil, List.mem_append,
    List.mem_singleton, List.mem_flatMap]
  grind

theorem mem_writtenNames_relationParts :
    symbol ∈ writtenNames (relationParts configuration entity) ↔
      symbol = "z" ∨
        symbol = (SchemaNames.ofConfiguration configuration).base entity.name ∨
        (∃ name ∈ entity.name :: entity.targets,
          symbol = SchemaNames.completeInput name ∨ symbol = SchemaNames.completeOutput name) ∨
        ∃ field ∈ entity.relationFields,
          symbol ∈
            Fragment.identifiers (field.fragments (.ofConfiguration configuration) .related) := by
  rw [relationParts_comments, Code.writtenNames_append, Code.writtenNames_append,
    Code.writtenNames_append, List.mem_append, List.mem_append, List.mem_append,
    mem_writtenNames_companionPart (by decide), mem_writtenNames_companionPart (by decide),
    writtenNames_comments, mem_writtenNames_relatedPart]
  simp only [List.not_mem_nil, false_or, List.mem_cons, exists_eq_or_imp, and_or_left, exists_or]
  grind

theorem mem_writtenNames_relationArtifacts :
    symbol ∈ writtenNames (stageParts configuration entity .relationArtifacts) ↔
      entity.hasRelatedSchema configuration ∧
        symbol ∈ writtenNames (relationParts configuration entity) := by
  rw [stageParts]
  split_ifs with related
  · rw [and_iff_right related]
  · simp [related, writtenNames]

/-- The generator writes the standing names of an entity, and the names of fields that are not
replaced. -/
theorem mem_writtenNames_outline :
    symbol ∈ writtenNames (outline configuration entity) ↔
      symbol ∈ entity.standingNames configuration ∨
        ∃ field ∈ entity.emittedFields configuration,
          field.docs.replacement? = none ∧
            symbol ∈ field.kind.names (.ofConfiguration configuration) := by
  rw [outline_stages, Code.writtenNames_append, Code.writtenNames_append,
    Code.writtenNames_append, List.mem_append, List.mem_append, List.mem_append,
    mem_writtenNames_jsonHelper, mem_writtenNames_decimalHelper, mem_writtenNames_basePart,
    mem_writtenNames_relationArtifacts, mem_writtenNames_relationParts,
    Entity.mem_standingNames, Entity.exists_mem_emittedFields]
  -- Every stage writes the name of the validator library, so it is set aside first.
  by_cases root : symbol = "z"
  · simp [root]
  · rw [Entity.exists_scalarField_names root, Entity.exists_relationField_names root]
    simp only [root, List.mem_cons, List.not_mem_nil, false_or, or_false]
    constructor
    · rintro (json | decimal | scalar | ⟨related, base | companion | relation⟩)
      · exact .inl (.inl json)
      · exact .inl (.inr (.inl decimal))
      · exact .inr (.inl scalar)
      · exact .inl (.inr (.inr ⟨related, .inl base⟩))
      · exact .inl (.inr (.inr ⟨related, .inr companion⟩))
      · exact .inr (.inr ⟨related, relation⟩)
    · rintro ((json | decimal | ⟨related, base | companion⟩) | scalar | ⟨related, relation⟩)
      · exact .inl json
      · exact .inr (.inl decimal)
      · exact .inr (.inr (.inr ⟨related, .inl base⟩))
      · exact .inr (.inr (.inr ⟨related, .inr (.inl companion)⟩))
      · exact .inr (.inr (.inl scalar))
      · exact .inr (.inr (.inr ⟨related, .inr (.inr relation)⟩))

/-- The module of an entity refers to what the entity needs. -/
theorem refersTo_outline_iff :
    RefersTo (outline configuration entity) symbol ↔ entity.Needs configuration symbol := by
  have contributed :
      (∃ text ∈ contributedTexts (outline configuration entity),
          Imports.occursIn symbol.toList text.toList) ↔
        ∃ field ∈ entity.emittedFields configuration, ∃ text ∈ field.docs.effective,
          Imports.occursIn symbol.toList text.toList := by
    rw [contributedTexts_outline]
    simp only [List.mem_flatMap]
    constructor
    · rintro ⟨text, ⟨field, fieldMember, effective⟩, occurs⟩
      exact ⟨field, fieldMember, text, effective, occurs⟩
    · rintro ⟨field, fieldMember, text, effective, occurs⟩
      exact ⟨text, ⟨field, fieldMember, effective⟩, occurs⟩
  rw [RefersTo, mem_writtenNames_outline, contributed, Entity.Needs, or_assoc]
  simp only [and_or_left, exists_or]

/-! ## Imports -/

theorem target_of_foreign
    {target : String}
    (foreign : target ∈ entity.foreignTargets) :
    target ∈ entity.targets :=
  List.mem_filterMap.mpr (Entity.mem_foreignTargets.mp foreign).1

theorem hasRelatedSchema_of_target
    {target : String}
    (enabled : configuration.relationMode.isEnabled)
    (member : target ∈ entity.targets) :
    entity.hasRelatedSchema configuration := by
  obtain ⟨field, fieldMember, -⟩ := mem_targets_iff.mp member
  obtain ⟨fieldOf, isRelation⟩ := List.mem_filter.mp fieldMember
  rw [Entity.hasRelatedSchema, Bool.and_eq_true]
  exact ⟨enabled, List.any_eq_true.mpr ⟨field, fieldOf, isRelation⟩⟩

/-- Of the names that a relation needs, the companion types of the target are always used. -/
theorem needs_of_relationSymbol
    {target : String}
    (enabled : configuration.relationMode.isEnabled)
    (foreign : target ∈ entity.foreignTargets)
    (schema :
      entity.Needs configuration ((SchemaNames.ofConfiguration configuration).related target))
    (needed : symbol ∈ Imports.relationSymbols (.ofConfiguration configuration) target) :
    entity.Needs configuration symbol := by
  have member := target_of_foreign foreign
  have related := hasRelatedSchema_of_target enabled member
  have companion :
      symbol = SchemaNames.completeInput target ∨ symbol = SchemaNames.completeOutput target →
        entity.Needs configuration symbol := by
    intro named
    refine .inl (Entity.mem_standingNames.mpr ?_)
    exact .inr (.inr (.inr ⟨related, .inr ⟨target, List.mem_cons_of_mem _ member, named⟩⟩))
  rw [Imports.relationSymbols, List.mem_cons, List.mem_pair] at needed
  rcases needed with input | output | rfl
  · exact companion (.inl input)
  · exact companion (.inr output)
  · exact schema

/-- Where an entity needs the enums, schemas and helpers that its module imports, it needs all that
the module imports. -/
theorem needs_of_mem_imports
    {declaration : Code.Import}
    (enums : ∀ name ∈ entity.enumNames, entity.Needs configuration name)
    (schemas :
      configuration.relationMode.isEnabled → ∀ target ∈ entity.foreignTargets,
        entity.Needs configuration ((SchemaNames.ofConfiguration configuration).related target))
    (helpers :
      configuration.imports.isSome → entity.fields.any Imports.mentionsHelpers →
        entity.Needs configuration Imports.helperNamespace)
    (imported : declaration ∈ Imports.ofEntity configuration layout entity)
    (member : symbol ∈ declaration.symbols) :
    entity.Needs configuration symbol := by
  rcases Imports.mem_ofEntity.mp imported with rfl | helper | decimal | enumeration | relation
  · rw [List.mem_singleton.mp member]
    exact .inl (Entity.mem_standingNames.mpr (.inl rfl))
  · obtain ⟨path, configured, mentioned, rfl⟩ := Imports.mem_ofHelpers.mp helper
    rw [List.mem_singleton.mp member]
    exact helpers (by rw [configured, Option.isSome_some]) mentioned
  · obtain ⟨⟨library, used⟩, rfl⟩ := Imports.mem_ofDecimal.mp decimal
    rw [List.mem_singleton.mp member]
    refine .inl (Entity.mem_standingNames.mpr (.inr (.inr (.inl ⟨?_, rfl⟩))))
    rw [Bool.and_eq_true]
    exact ⟨library, used⟩
  · obtain ⟨-, rfl⟩ := Imports.mem_ofEnums.mp enumeration
    exact enums symbol member
  · obtain ⟨⟨enabled, -⟩, rfl⟩ := Imports.mem_ofRelations.mp relation
    obtain ⟨target, foreign, needed⟩ := Imports.mem_foreignSymbols.mp member
    exact needs_of_relationSymbol enabled foreign (schemas enabled target foreign) needed

/-- All imports of a module are used exactly when its entity needs the enums that its fields name,
the relation-aware schemas of the entities that its relations lead to, and the module of user
helpers where a directive mentions it.  What is used occurs in a text of the statements. -/
theorem imports_used_iff
    {unit : Code.Module}
    (compiled : ofEntity configuration layout model entity = .ok unit) :
    ((∀ declaration ∈ unit.imports, ∀ symbol ∈ declaration.symbols,
        RefersTo (outline configuration entity) symbol) ↔
      (∀ name ∈ entity.enumNames, entity.Needs configuration name) ∧
        (configuration.relationMode.isEnabled → ∀ target ∈ entity.foreignTargets,
          entity.Needs configuration ((SchemaNames.ofConfiguration configuration).related target)) ∧
        (configuration.imports.isSome → entity.fields.any Imports.mentionsHelpers →
          entity.Needs configuration Imports.helperNamespace)) ∧
      ∀ symbol, RefersTo (outline configuration entity) symbol → unit.Mentions symbol := by
  obtain ⟨-, rfl⟩ := ofEntity_eq_ok_iff.mp compiled
  refine ⟨?_, fun symbol refers => refers.mentions outline_statement fun _ => outline_isSpelled⟩
  simp only [refersTo_outline_iff]
  constructor
  · intro used
    refine ⟨?_, ?_, ?_⟩
    · intro name member
      obtain ⟨declaration, imported, -, symbolMember⟩ := Imports.exists_enum_import member
      exact used declaration imported name symbolMember
    · intro enabled target foreign
      obtain ⟨declaration, imported, -, symbolMember⟩ :=
        Imports.exists_relation_import enabled foreign
      exact used declaration imported _ (symbolMember _ (by simp [Imports.relationSymbols]))
    · intro configured mentioned
      obtain ⟨path, found⟩ := Option.isSome_iff_exists.mp configured
      have helper :
          { source := layout.schemaSpecifier path, binding := .whole Imports.helperNamespace } ∈
            Imports.ofHelpers configuration layout entity :=
        Imports.mem_ofHelpers.mpr ⟨path, found, mentioned, rfl⟩
      exact used _ (Imports.mem_ofEntity.mpr (.inr (.inl helper))) _ (List.mem_singleton.mpr rfl)
  · rintro ⟨enums, schemas, helpers⟩ declaration imported symbol member
    exact needs_of_mem_imports enums schemas helpers imported member

theorem imports_used_iff_order :
    ofEntity ordersConfiguration ordersLayout orders order =
        .ok (unchecked ordersConfiguration ordersLayout order) ∧
      ∀ declaration ∈ (unchecked ordersConfiguration ordersLayout order).imports,
        ∀ symbol ∈ declaration.symbols,
          (unchecked ordersConfiguration ordersLayout order).Mentions symbol := by
  have compiled :
      ofEntity ordersConfiguration ordersLayout orders order =
        .ok (unchecked ordersConfiguration ordersLayout order) :=
    ofEntity_eq_ok_iff.mpr ⟨by decide, rfl⟩
  obtain ⟨usedIff, mentioned⟩ := imports_used_iff compiled
  refine ⟨compiled, ?_⟩
  intro declaration imported symbol member
  exact mentioned symbol (usedIff.mpr (by decide +kernel) declaration imported symbol member)

/-- A review whose documentation replaces the validators of its enum and of its relation, and
mentions user helpers in a replacement that comes second. -/
def review : Entity where
  name := "Review"
  fields :=
    [ { name := "status", kind := .enumeration "Status"
        documentation := some "@zod.custom(z.string())" },
      { name := "code", kind := .scalar .string
        documentation := some "@zod.custom(z.string()).custom(imports.code)" },
      { name := "author", kind := .relation "User"
        documentation := some "@zod.custom(z.any())" } ]

/-- Reviews and their authors. -/
def reviews : DataModel where
  entities :=
    [review, { name := "User", fields := [{ name := "id", kind := .scalar .int }] }]
  enums := [{ name := "Status", values := [{ name := "OPEN" }] }]

/-- Generation with a module of user helpers. -/
def reviewsConfiguration : Configuration :=
  { imports := some "./helpers" }

theorem imports_unused :
    ofEntity reviewsConfiguration ordersLayout reviews review =
        .ok (unchecked reviewsConfiguration ordersLayout review) ∧
      ∀ symbol ∈ ["Status", "RelatedUserModel", "imports"],
        (∃ declaration ∈ (unchecked reviewsConfiguration ordersLayout review).imports,
            symbol ∈ declaration.symbols) ∧
          ¬ (unchecked reviewsConfiguration ordersLayout review).Mentions symbol := by
  have imported :
      ∀ symbol ∈ ["Status", "RelatedUserModel", "imports"],
        ∃ declaration ∈
            Imports.ofValidators :: Imports.optional reviewsConfiguration ordersLayout review,
          symbol ∈ declaration.symbols := by
    decide +kernel
  have absent :
      ∀ symbol ∈ ["Status", "RelatedUserModel", "imports"],
        ¬ (unchecked reviewsConfiguration ordersLayout review).Mentions symbol := by
    decide +kernel
  refine ⟨ofEntity_eq_ok_iff.mpr ⟨by decide, rfl⟩, ?_⟩
  intro symbol member
  obtain ⟨declaration, declared, bound⟩ := imported symbol member
  exact ⟨⟨declaration, Imports.ofEntity_perm.mem_iff.mpr declared, bound⟩, absent symbol member⟩

end EntityModule
end EntitySchema
