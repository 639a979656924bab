import EntitySchema.Proofs.DeclaredNames
import EntitySchema.Proofs.Fragments

/-!
# Outlines of entity modules

An outline lists, for every statement of a module, the texts that it is made of, when they are
evaluated, and the fragments that they consist of.  The fragments of an outline spell the texts of
the statements exactly.
-/

namespace EntitySchema

namespace Code

/-- When a text of a module is evaluated. -/
inductive Phase
  /-- While the module is initialized. -/
  | initialization
  /-- At the first use of a lazy expression, after all modules are initialized. -/
  | firstUse
  /-- Never: the text is a type. -/
  | typing
  deriving DecidableEq, Repr

/-- The texts of an expression that is evaluated in the given phase. -/
def Expression.texts (phase : Phase) : Expression -> List (Phase × String)
  | validator value => [(phase, value.text)]
  | object properties =>
      (phase, "z.object(") :: properties.map fun property => (phase, property.value.text)
  | extend base properties =>
      (phase, base ++ ".extend(") :: properties.map fun property => (phase, property.value.text)
  | lazy inner => (phase, "z.lazy(() => ") :: inner.texts .firstUse
  | constObject _ => []
  | verbatim lines => lines.map fun line => (phase, line.2)

/-- The texts of a statement, besides the names that it declares. -/
def Statement.texts : Statement -> List (Phase × String)
  | constant declaration =>
      declaration.type.toList.map (Prod.mk .typing) ++ declaration.value.texts .initialization
  | interface declaration =>
      declaration.bases.map (Prod.mk .typing) ++
        declaration.members.map fun member => (.typing, member.type)
  | typeAlias _ _ type => [(.typing, type)]
  | lineComment _ | blockComment _ | exportAll _ => []

/-- A text of a statement, cut into fragments. -/
structure Use where
  /-- When the text is evaluated. -/
  phase : Phase
  /-- The fragments of the text. -/
  fragments : List Fragment
  deriving DecidableEq, Repr

/-- The text that a use stands for, with its phase. -/
def Use.spelled (use : Use) : Phase × String :=
  (use.phase, Fragment.joined use.fragments)

/-- A statement with its texts cut into fragments. -/
structure Part where
  /-- The statement. -/
  statement : Statement
  /-- Its texts. -/
  uses : List Use
  deriving DecidableEq, Repr

namespace Part

/-- The fragments of a part spell the texts of its statement. -/
def IsSpelled (part : Part) : Prop :=
  part.statement.texts = part.uses.map Use.spelled

/-- A statement in which no text depends on a data model. -/
def ofFixed (statement : Statement) : Part where
  statement := statement
  uses := statement.texts.map fun (phase, text) => { phase, fragments := Fragment.ofFixed text }

theorem ofFixed_isSpelled (statement : Statement) : (ofFixed statement).IsSpelled := by
  simp [IsSpelled, ofFixed, Use.spelled, Function.comp_def]

theorem directives_ofFixed
    {statement : Statement}
    {use : Use}
    (member : use ∈ (ofFixed statement).uses) :
    Fragment.directives use.fragments = [] := by
  obtain ⟨text, -, rfl⟩ := List.mem_map.mp member
  exact Fragment.directives_ofFixed _

theorem namesShown_ofFixed
    {statement : Statement}
    {use : Use}
    (member : use ∈ (ofFixed statement).uses) :
    Fragment.NamesShown false use.fragments := by
  obtain ⟨text, -, rfl⟩ := List.mem_map.mp member
  exact Fragment.namesShown_ofFixed _

end Part
end Code

open Code (Fragment Part Use)

/-! ## Fields -/

/-- The fragments of the expression that is inferred from a kind. -/
def FieldKind.fragments (options : FieldOptions) (schema : RelationSchema) :
    FieldKind -> List Fragment
  | scalar type => Fragment.ofFixed (type.expression options)
  | enumeration name =>
      Fragment.ofFixed "z.nativeEnum(" ++ .identifier name :: Fragment.ofFixed ")"
  | relation target => [.identifier (options.names.schema schema target)]

theorem FieldKind.joined_fragments
    (options : FieldOptions)
    (schema : RelationSchema)
    (kind : FieldKind) :
    Fragment.joined (kind.fragments options schema) = kind.expression options schema := by
  cases kind with
  | scalar type => simp [fragments, expression]
  | enumeration name =>
      simp [fragments, expression, Fragment.text, String.append_assoc]
  | relation target => simp [fragments, expression, Fragment.text]

theorem FieldKind.directives_fragments
    (options : FieldOptions)
    (schema : RelationSchema)
    (kind : FieldKind) :
    Fragment.directives (kind.fragments options schema) = [] := by
  cases kind <;> simp [fragments, Fragment.directive?]

theorem FieldKind.namesShown_fragments
    (options : FieldOptions)
    (schema : RelationSchema)
    (kind : FieldKind) :
    Fragment.NamesShown false (kind.fragments options schema) := by
  cases kind with
  | scalar type => exact Fragment.namesShown_ofFixed _
  | enumeration name =>
      have closing := (Fragment.namesShown_ofFixed ")").cons_identifier name
      have shown := (Fragment.namesShown_ofFixed "z.nativeEnum(").append closing
      exact shown
  | relation target => exact ⟨trivial, trivial⟩

namespace Field

/-- The fragments of the first part of a field's validator. -/
def baseFragments (options : FieldOptions) (schema : RelationSchema) (field : Field) :
    List Fragment :=
  match field.docs.replacement? with
  | some expression => [.directive expression]
  | none => field.kind.fragments options schema

/-- The fragments of calls of the generator's own. -/
def callFragments (calls : List String) : List Fragment :=
  calls.flatMap fun call => Fragment.ofFixed ("." ++ call)

/-- The fragments of calls that documentation appends. -/
def directiveFragments (calls : List String) : List Fragment :=
  calls.flatMap fun call => [.fixed ".", .directive call]

/-- The fragments of a field's validator. -/
def fragments (options : FieldOptions) (schema : RelationSchema) (field : Field) :
    List Fragment :=
  field.baseFragments options schema ++ callFragments field.listModifiers ++
    directiveFragments field.docs.appended ++ callFragments (field.nullabilityModifiers options)

theorem joined_callFragments (calls : List String) :
    Fragment.joined (callFragments calls) = String.join (calls.map fun call => "." ++ call) := by
  induction calls with
  | nil => rfl
  | cons call rest inductionHypothesis =>
      change Fragment.joined (Fragment.ofFixed ("." ++ call) ++ callFragments rest) = _
      rw [Fragment.joined_append, Fragment.joined_ofFixed, inductionHypothesis, List.map_cons,
        String.join_cons]

theorem joined_directiveFragments (calls : List String) :
    Fragment.joined (directiveFragments calls) =
      String.join (calls.map fun call => "." ++ call) := by
  induction calls with
  | nil => rfl
  | cons call rest inductionHypothesis =>
      change Fragment.joined (.fixed "." :: .directive call :: directiveFragments rest) = _
      rw [Fragment.joined_cons, Fragment.joined_cons, inductionHypothesis, List.map_cons,
        String.join_cons, String.append_assoc]
      rfl

theorem joined_baseFragments
    (options : FieldOptions)
    (schema : RelationSchema)
    (field : Field) :
    Fragment.joined (field.baseFragments options schema) =
      (field.validator options schema).base := by
  rw [baseFragments, validator]
  cases field.docs.replacement? with
  | some expression => simp [Fragment.text]
  | none => exact FieldKind.joined_fragments options schema field.kind

/-- The fragments of a field spell its validator. -/
theorem joined_fragments
    (options : FieldOptions)
    (schema : RelationSchema)
    (field : Field) :
    Fragment.joined (field.fragments options schema) =
      (field.validator options schema).text := by
  rw [fragments, Fragment.joined_append, Fragment.joined_append, Fragment.joined_append,
    joined_baseFragments, joined_callFragments, joined_directiveFragments,
    joined_callFragments, Code.Validator.text]
  simp only [validator, List.map_append, String.join_append, String.append_assoc]

theorem directives_callFragments (calls : List String) :
    Fragment.directives (callFragments calls) = [] := by
  induction calls with
  | nil => rfl
  | cons call rest inductionHypothesis =>
      change Fragment.directives (Fragment.ofFixed ("." ++ call) ++ callFragments rest) = []
      rw [Fragment.directives_append, Fragment.directives_ofFixed, inductionHypothesis]
      rfl

theorem directives_directiveFragments (calls : List String) :
    Fragment.directives (directiveFragments calls) = calls := by
  induction calls with
  | nil => rfl
  | cons call rest inductionHypothesis =>
      change Fragment.directives (.fixed "." :: .directive call :: directiveFragments rest) = _
      rw [Fragment.directives_cons, Fragment.directives_cons, inductionHypothesis]
      rfl

/-- What documentation contributes to a field's validator is the text of a directive. -/
theorem directive_of_mem_fragments
    {options : FieldOptions}
    {schema : RelationSchema}
    {field : Field}
    {text : String}
    (member : text ∈ Fragment.directives (field.fragments options schema)) :
    ∃ directive ∈ field.docs.directives, directive.text = text := by
  simp only [fragments, Fragment.directives_append, directives_callFragments,
    directives_directiveFragments, List.append_nil, List.mem_append] at member
  rcases member with replaced | appended
  · rw [baseFragments] at replaced
    cases replacement : field.docs.replacement? with
    | none =>
        rw [replacement, FieldKind.directives_fragments] at replaced
        cases replaced
    | some expression =>
        rw [replacement] at replaced
        have same : text = expression := List.mem_singleton.mp replaced
        obtain ⟨directive, directiveMember, found⟩ :=
          List.exists_of_findSome?_eq_some replacement
        refine ⟨directive, directiveMember, ?_⟩
        cases directive <;> simp_all [Directive.replacement?, Directive.text]
  · obtain ⟨directive, directiveMember, found⟩ := List.mem_filterMap.mp appended
    refine ⟨directive, directiveMember, ?_⟩
    cases directive <;> simp_all [Directive.appended?, Directive.text]

theorem namesShown_callFragments (calls : List String) :
    Fragment.NamesShown false (callFragments calls) := by
  induction calls with
  | nil => trivial
  | cons call rest inductionHypothesis =>
      exact (Fragment.namesShown_ofFixed _).append inductionHypothesis

theorem namesShown_directiveFragments (calls : List String) :
    Fragment.NamesShown false (directiveFragments calls) := by
  have dot : Fragment.HidesNothing false (.fixed ".") := by
    have characters : ".".toList = ['.'] := by decide
    rw [Fragment.HidesNothing, characters]
    refine ⟨?_, by decide⟩
    intro first firstMember second secondMember
    rw [List.mem_singleton.mp firstMember, List.mem_singleton.mp secondMember]
  induction calls with
  | nil => trivial
  | cons call rest inductionHypothesis =>
      exact ⟨dot, trivial, inductionHypothesis.behindDot⟩

/-- The fragments of a field show all names that the generator writes. -/
theorem namesShown_fragments
    (options : FieldOptions)
    (schema : RelationSchema)
    (field : Field) :
    Fragment.NamesShown false (field.fragments options schema) := by
  have base : Fragment.NamesShown false (field.baseFragments options schema) := by
    rw [baseFragments]
    cases field.docs.replacement? with
    | some expression => exact ⟨trivial, trivial⟩
    | none => exact FieldKind.namesShown_fragments options schema field.kind
  exact ((base.append (namesShown_callFragments _)).append
    (namesShown_directiveFragments _)).append (namesShown_callFragments _)

end Field

/-! ## Statements -/

namespace EntityModule

/-- The base schema of an entity: its texts are those of the fields that are not relations. -/
def basePart (configuration : Configuration) (entity : Entity) : Part where
  statement := .constant (baseConstant configuration entity)
  uses :=
    { phase := .initialization, fragments := Fragment.ofFixed "z.object(" } ::
      entity.scalarFields.map fun field =>
        { phase := .initialization
          fragments := field.fragments (.ofConfiguration configuration) .base }

/-- The fragments of the type of a relation. -/
def companionFragments (companion : String -> String) (field : Field) : Option (List Fragment) :=
  field.kind.relationTarget?.map fun target =>
    .identifier (companion target) ::
      (Fragment.ofFixed (if field.isList then "[]" else "") ++
        Fragment.ofFixed (if field.isRequired then "" else " | null"))

/-- A companion type of an entity; the given word turns the base schema into its type. -/
def companionPart
    (configuration : Configuration)
    (companion : String -> String)
    (word : String)
    (entity : Entity) : Part :=
  let base := (SchemaNames.ofConfiguration configuration).base entity.name
  { statement := .interface (entity.companionInterface companion (word ++ base ++ ">"))
    uses :=
      { phase := .typing
        fragments := Fragment.ofFixed word ++ .identifier base :: Fragment.ofFixed ">" } ::
        (entity.relationFields.filterMap (companionFragments companion)).map fun fragments =>
          { phase := .typing, fragments } }

/-- The relation-aware schema of an entity. -/
def relatedPart (configuration : Configuration) (entity : Entity) : Part where
  statement := .constant (entity.relatedConstant configuration)
  uses :=
    { phase := .typing
      fragments :=
        Fragment.ofFixed "z.ZodSchema<" ++
          .identifier (SchemaNames.completeOutput entity.name) ::
            (Fragment.ofFixed ", z.ZodTypeDef, " ++
              .identifier (SchemaNames.completeInput entity.name) :: Fragment.ofFixed ">") } ::
    { phase := .initialization, fragments := Fragment.ofFixed "z.lazy(() => " } ::
    { phase := .firstUse
      fragments :=
        .identifier ((SchemaNames.ofConfiguration configuration).base entity.name) ::
          Fragment.ofFixed ".extend(" } ::
    entity.relationFields.map fun field =>
      { phase := .firstUse
        fragments := field.fragments (.ofConfiguration configuration) .related }

/-- The companion types and the relation-aware schema of an entity. -/
def relationParts (configuration : Configuration) (entity : Entity) : List Part :=
  let names := SchemaNames.ofConfiguration configuration
  [ companionPart configuration SchemaNames.completeInput "z.input<typeof " entity,
    companionPart configuration SchemaNames.completeOutput "z.infer<typeof " entity,
    .ofFixed (.blockComment (Entity.relatedSchemaComment (names.related entity.name))) ] ++
  (if configuration.ignoreRelationTypes then [.ofFixed (.lineComment ["@ts-ignore"])] else []) ++
  [relatedPart configuration entity]

/-- The parts that a stage adds to the module of an entity. -/
def stageParts (configuration : Configuration) (entity : Entity) : Stage -> List Part
  | .baseSchema => [basePart configuration entity]
  | .relationArtifacts =>
      if entity.hasRelatedSchema configuration then relationParts configuration entity else []
  | stage => (stageStatements configuration entity stage).map Part.ofFixed

/-- The parts of the module of an entity. -/
def outline (configuration : Configuration) (entity : Entity) : List Part :=
  Stage.all.flatMap (stageParts configuration entity)

variable
  {configuration : Configuration}
  {layout : FileLayout}
  {entity : Entity}

theorem stageParts_statement (stage : Stage) :
    (stageParts configuration entity stage).map Part.statement =
      stageStatements configuration entity stage := by
  cases stage with
  | baseSchema => rfl
  | relationArtifacts =>
      simp only [stageParts, stageStatements]
      split_ifs with related
      · rw [relationParts, Entity.relationStatements]
        cases configuration.ignoreRelationTypes <;> rfl
      · rfl
  | start | imports | jsonHelper | decimalHelper | done =>
      simp [stageParts, Part.ofFixed, Function.comp_def]

/-- The outline of a module has its statements. -/
theorem outline_statement :
    (outline configuration entity).map Part.statement =
      (unchecked configuration layout entity).statements := by
  rw [outline, List.map_flatMap, unchecked]
  simp only [stageParts_statement]

theorem basePart_isSpelled : (basePart configuration entity).IsSpelled := by
  simp [Part.IsSpelled, basePart, baseConstant, Code.Statement.texts, Code.Expression.texts,
    Use.spelled, Field.property, Field.joined_fragments, Function.comp_def]

theorem joined_companionFragments
    (companion : String -> String)
    (field : Field) :
    (companionFragments companion field).map Fragment.joined =
      (field.companionMember? companion).map Code.Member.type := by
  rw [companionFragments, Field.companionMember?]
  cases field.kind.relationTarget? with
  | none => rfl
  | some target => simp [Fragment.text, Field.companionType, String.append_assoc]

theorem companionPart_isSpelled
    (companion : String -> String)
    (word : String) :
    (companionPart configuration companion word entity).IsSpelled := by
  have members :
      (entity.relationFields.filterMap (Field.companionMember? companion)).map Code.Member.type =
        (entity.relationFields.filterMap (companionFragments companion)).map Fragment.joined := by
    rw [List.map_filterMap, List.map_filterMap]
    simp only [joined_companionFragments]
  simp only [Part.IsSpelled, companionPart, Entity.companionInterface, Code.Statement.texts,
    List.map_cons, List.map_nil, List.cons_append, List.nil_append, List.map_map]
  congr 1
  · simp [Use.spelled, Fragment.text, String.append_assoc]
  · have paired := congrArg (List.map (Prod.mk Code.Phase.typing)) members
    simpa only [List.map_map, Function.comp_def, Use.spelled] using paired

theorem relatedPart_isSpelled : (relatedPart configuration entity).IsSpelled := by
  simp [Part.IsSpelled, relatedPart, Entity.relatedConstant, Code.Statement.texts,
    Code.Expression.texts, Use.spelled, Field.property, Field.joined_fragments, Fragment.text,
    FieldOptions.ofConfiguration, Function.comp_def, String.append_assoc]

/-- The parts of an outline: apart from statements with fixed text, there are the base schema, the
companion types and the relation-aware schema. -/
theorem mem_outline
    {part : Part}
    (member : part ∈ outline configuration entity) :
    (∃ statement, part = .ofFixed statement) ∨
      part = basePart configuration entity ∨
      (∃ companion word, part = companionPart configuration companion word entity) ∨
      part = relatedPart configuration entity := by
  obtain ⟨stage, -, added⟩ := List.mem_flatMap.mp member
  cases stage with
  | baseSchema => exact .inr (.inl (List.mem_singleton.mp added))
  | relationArtifacts =>
      rw [stageParts] at added
      split_ifs at added
      · simp only [relationParts, List.mem_append, List.mem_cons, List.not_mem_nil,
          or_false] at added
        rcases added with ((rfl | rfl | rfl) | ignored) | rfl
        · exact .inr (.inr (.inl ⟨_, _, rfl⟩))
        · exact .inr (.inr (.inl ⟨_, _, rfl⟩))
        · exact .inl ⟨_, rfl⟩
        · split_ifs at ignored
          · exact .inl ⟨_, List.mem_singleton.mp ignored⟩
          · cases ignored
        · exact .inr (.inr (.inr rfl))
      · cases added
  | start | imports | jsonHelper | decimalHelper | done =>
      obtain ⟨statement, -, same⟩ := List.mem_map.mp added
      exact .inl ⟨statement, same.symm⟩

/-- The outline of a module spells its texts. -/
theorem outline_isSpelled
    {part : Part}
    (member : part ∈ outline configuration entity) :
    part.IsSpelled := by
  rcases mem_outline member with ⟨statement, rfl⟩ | rfl | ⟨companion, word, rfl⟩ | rfl
  · exact Part.ofFixed_isSpelled statement
  · exact basePart_isSpelled
  · exact companionPart_isSpelled companion word
  · exact relatedPart_isSpelled

/-- A companion type takes nothing over from documentation. -/
theorem directives_companionPart
    {companion : String -> String}
    {word : String}
    {use : Use}
    (member : use ∈ (companionPart configuration companion word entity).uses) :
    Fragment.directives use.fragments = [] := by
  simp only [companionPart, List.mem_cons, List.mem_map, List.mem_filterMap] at member
  rcases member with rfl | ⟨fragments, ⟨field, -, found⟩, rfl⟩
  · simp [Fragment.directive?]
  · rw [companionFragments, Option.map_eq_some_iff] at found
    obtain ⟨target, -, rfl⟩ := found
    simp [Fragment.directive?]

/-- What an outline attributes to documentation is the text of a directive of a field. -/
theorem directive_of_mem_outline
    {part : Part}
    {use : Use}
    {text : String}
    (partMember : part ∈ outline configuration entity)
    (useMember : use ∈ part.uses)
    (textMember : text ∈ Fragment.directives use.fragments) :
    ∃ field ∈ entity.fields, ∃ directive ∈ field.docs.directives, directive.text = text := by
  rcases mem_outline partMember with ⟨statement, rfl⟩ | rfl | ⟨companion, word, rfl⟩ | rfl
  · simp [Part.directives_ofFixed useMember] at textMember
  · rw [basePart, List.mem_cons] at useMember
    rcases useMember with rfl | useMember
    · simp at textMember
    · obtain ⟨field, fieldMember, rfl⟩ := List.mem_map.mp useMember
      exact ⟨field, (List.mem_filter.mp fieldMember).1,
        Field.directive_of_mem_fragments textMember⟩
  · simp [directives_companionPart useMember] at textMember
  · simp only [relatedPart, List.mem_cons, List.mem_map] at useMember
    rcases useMember with rfl | rfl | rfl | ⟨field, fieldMember, rfl⟩
    · simp [Fragment.directive?] at textMember
    · simp at textMember
    · simp [Fragment.directive?] at textMember
    · exact ⟨field, (List.mem_filter.mp fieldMember).1,
        Field.directive_of_mem_fragments textMember⟩

theorem namesShown_companionPart
    {companion : String -> String}
    {word : String}
    {use : Use}
    (member : use ∈ (companionPart configuration companion word entity).uses) :
    Fragment.NamesShown false use.fragments := by
  simp only [companionPart, List.mem_cons, List.mem_map, List.mem_filterMap] at member
  rcases member with rfl | ⟨fragments, ⟨field, -, found⟩, rfl⟩
  · have closing := (Fragment.namesShown_ofFixed ">").cons_identifier
      ((SchemaNames.ofConfiguration configuration).base entity.name)
    exact (Fragment.namesShown_ofFixed word).append closing
  · rw [companionFragments, Option.map_eq_some_iff] at found
    obtain ⟨target, -, rfl⟩ := found
    exact ((Fragment.namesShown_ofFixed _).append (Fragment.namesShown_ofFixed _)).cons_identifier _

/-- The outline of a module shows all names that the generator writes. -/
theorem namesShown_of_mem_outline
    {part : Part}
    {use : Use}
    (partMember : part ∈ outline configuration entity)
    (useMember : use ∈ part.uses) :
    Fragment.NamesShown false use.fragments := by
  rcases mem_outline partMember with ⟨statement, rfl⟩ | rfl | ⟨companion, word, rfl⟩ | rfl
  · exact Part.namesShown_ofFixed useMember
  · rw [basePart, List.mem_cons] at useMember
    rcases useMember with rfl | useMember
    · exact Fragment.namesShown_ofFixed _
    · obtain ⟨field, -, rfl⟩ := List.mem_map.mp useMember
      exact Field.namesShown_fragments _ _ field
  · exact namesShown_companionPart useMember
  · simp only [relatedPart, List.mem_cons, List.mem_map] at useMember
    rcases useMember with rfl | rfl | rfl | ⟨field, -, rfl⟩
    · have input := (Fragment.namesShown_ofFixed ">").cons_identifier
        (SchemaNames.completeInput entity.name)
      have output := ((Fragment.namesShown_ofFixed ", z.ZodTypeDef, ").append input).cons_identifier
        (SchemaNames.completeOutput entity.name)
      exact (Fragment.namesShown_ofFixed "z.ZodSchema<").append output
    · exact Fragment.namesShown_ofFixed _
    · exact (Fragment.namesShown_ofFixed ".extend(").cons_identifier _
    · exact Field.namesShown_fragments _ _ field

end EntityModule
end EntitySchema
