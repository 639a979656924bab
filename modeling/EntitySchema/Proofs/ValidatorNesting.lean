import EntitySchema.Proofs.CasedNames
import EntitySchema.Proofs.WrittenDocumentation

/-!
# Nesting of validators

Whatever documentation says, the validator of a field closes its literals and has as many closing
as opening brackets at every place.  Its brackets are paired by kind exactly when those of every
directive that takes effect are.
-/

namespace EntitySchema
namespace Documentation

/-! ## Directives in effect -/

/-- The text of a segment that can be read is nested by number. -/
theorem nested_ofSegment
    {segment : Segment}
    (readable : segment.IsReadable) :
    Nested .byNumber (Directive.ofSegment segment).text.toList := by
  rw [Directive.ofSegment]
  split_ifs with replaces
  · rw [Directive.text, String.toList_ofList]
    exact readable.arguments.trim
  · have name : Nested .byNumber segment.name :=
      nested_of_plain fun character member =>
        isPlain_of_isNameCharacter (Segment.isNameCharacter_of_mem readable.name member)
    have arguments : Nested .byNumber ('(' :: (segment.arguments ++ [')'])) :=
      .bracket (by decide) (by decide) rfl readable.arguments .nil
    rw [Directive.text, String.toList_ofList, Segment.call, List.append_assoc, List.cons_append]
    exact name.append arguments

/-- Every directive of a text is that of a segment that can be read. -/
theorem exists_segment_of_mem_ofLines
    {lines : List (List Char)}
    {directive : Directive}
    (member : directive ∈ (ofLines lines).directives) :
    ∃ segment : Segment, segment.IsReadable ∧ Directive.ofSegment segment = directive := by
  induction lines with
  | nil => cases member
  | cons line rest inductionHypothesis =>
      rcases List.mem_append.mp member with here | later
      · rw [ofLine] at here
        split at here
        · obtain ⟨segment, segmentMember, same⟩ := List.mem_map.mp here
          exact ⟨segment, isReadable_of_mem_segments segmentMember, same⟩
        · cases here
      · exact inductionHypothesis later

/-- Whatever documentation says, the directives that take effect are nested by number. -/
theorem nested_of_mem_effective
    {text : Option String}
    {contribution : String}
    (member : contribution ∈ (ofText? text).effective) :
    Nested .byNumber contribution.toList := by
  cases text with
  | none => cases member
  | some text =>
      change contribution ∈ (ofText text).effective at member
      have nested :
          ∀ directive ∈ (ofText text).directives, Nested .byNumber directive.text.toList := by
        intro directive directiveMember
        obtain ⟨segment, readable, rfl⟩ := exists_segment_of_mem_ofLines directiveMember
        exact nested_ofSegment readable
      rcases List.mem_append.mp member with replaced | appended
      · rw [Option.mem_toList] at replaced
        obtain ⟨directive, directiveMember, found⟩ := List.exists_of_findSome?_eq_some replaced
        cases directive with
        | replaceBase expression =>
            cases found
            exact nested _ directiveMember
        | append call => cases found
      · obtain ⟨directive, directiveMember, found⟩ := List.mem_filterMap.mp appended
        cases directive with
        | replaceBase expression => cases found
        | append call =>
            cases found
            exact nested _ directiveMember

/-- Text that is paired by kind is paired in every way. -/
theorem Nested.ofKind
    {text : List Char}
    (nested : Nested .byKind text)
    (pairing : Pairing) :
    Nested pairing text := by
  cases pairing with
  | byKind => exact nested
  | byNumber => exact nested.byNumber

/-- Calls written one after the other are nested exactly when each is. -/
theorem nested_calls_iff
    {calls : List String}
    (numbered : ∀ call ∈ calls, Nested .byNumber call.toList)
    (pairing : Pairing) :
    Nested pairing (String.join (calls.map fun call => "." ++ call)).toList ↔
      ∀ call ∈ calls, Nested pairing call.toList := by
  induction calls with
  | nil => simp [Nested.nil]
  | cons call rest inductionHypothesis =>
      rw [List.forall_mem_cons] at numbered
      rw [List.map_cons, String.join_cons, String.append_assoc, String.toList_append,
        List.forall_mem_cons, ← inductionHypothesis numbered.2]
      change Nested pairing ('.' :: (call ++ _).toList) ↔ _
      rw [nested_cons_iff (by decide), String.toList_append, nested_append_iff numbered.1]

end Documentation

open Documentation

/-! ## Expressions of the generator -/

theorem ScalarType.nested_expression
    (options : FieldOptions)
    (type : ScalarType) :
    Nested .byKind (type.expression options).toList := by
  cases type with
  | decimal =>
      rw [expression]
      split_ifs <;> decide
  | dateTime =>
      rw [expression]
      cases options.dateTimeMode <;> decide
  | string | int | bigInt | float | boolean | json | bytes | unsupported =>
      rw [expression]
      decide

theorem FieldKind.nested_expression
    {options : FieldOptions}
    {kind : FieldKind}
    (schema : RelationSchema)
    (plainEnum : ∀ name ∈ kind.enumName?, ∀ character ∈ name.toList, isPlain character)
    (plainTarget : ∀ target ∈ kind.relationTarget?, ∀ character ∈ target.toList, isPlain character)
    (plainSuffix : ∀ character ∈ options.names.suffix.toList, isPlain character) :
    Nested .byKind (kind.expression options schema).toList := by
  cases kind with
  | scalar type => exact type.nested_expression options
  | enumeration name =>
      have callee : Nested .byKind "z.nativeEnum".toList := by decide
      have argument : Nested .byKind ('(' :: (name.toList ++ [')'])) :=
        .bracket (by decide) (by decide) rfl (nested_of_plain (plainEnum name rfl)) .nil
      have text :
          ("z.nativeEnum(" ++ name ++ ")").toList =
            "z.nativeEnum".toList ++ '(' :: (name.toList ++ [')']) := by
        simp
      rw [expression, text]
      exact callee.append argument
  | relation target =>
      exact nested_of_plain (SchemaNames.isPlain_schema schema plainSuffix (plainTarget target rfl))

/-! ## Validators -/

namespace Field

/-- A validator over a nested expression is nested exactly when the directives in effect are. -/
theorem nested_validator_iff
    {options : FieldOptions}
    {schema : RelationSchema}
    {field : Field}
    (expression : Nested .byKind (field.kind.expression options schema).toList)
    (pairing : Pairing) :
    Nested pairing (field.validator options schema).text.toList ↔
      ∀ contribution ∈ field.docs.effective, Nested pairing contribution.toList := by
  have replaced : ∀ contribution ∈ field.docs.replacement?, Nested .byNumber contribution.toList :=
    fun _ member =>
      nested_of_mem_effective (List.mem_append_left _ (Option.mem_toList.mpr member))
  have appended : ∀ call ∈ field.docs.appended, Nested .byNumber call.toList :=
    fun _ member => nested_of_mem_effective (List.mem_append_right _ member)
  have base : ∀ pairing : Pairing,
      Nested pairing
          (field.docs.replacement?.getD (field.kind.expression options schema)).toList ↔
        ∀ contribution ∈ field.docs.replacement?, Nested pairing contribution.toList := by
    intro pairing
    cases field.docs.replacement? with
    | none => simpa using expression.ofKind pairing
    | some contribution => simp
  have listed : Nested .byKind (if field.isList then ".array()" else "").toList := by
    split_ifs <;> decide
  have missing :
      Nested .byKind
        (if field.isRequired ∨ field.kind = .scalar .json then ""
          else "." ++ options.nullability.modifier).toList := by
    cases options.nullability <;> split_ifs <;> decide
  -- Every part in front is nested by number, so nesting passes from the whole to the parts.
  have front := (base .byNumber).mpr replaced
  have middle := front.append listed.byNumber
  have calls := (nested_calls_iff appended .byNumber).mpr appended
  rw [text_validator, String.toList_append, String.toList_append, String.toList_append,
    nested_append_iff (middle.append calls), nested_append_iff middle, nested_append_iff front,
    base, nested_calls_iff appended, effective, List.forall_mem_append]
  simp only [listed.ofKind pairing, missing.ofKind pairing, and_true, Option.mem_toList,
    Option.mem_def]

/-- Whatever the documentation of a field says, its validator closes its literals and is nested by
number, as is every directive that takes effect.  It is nested by kind exactly when all directives
that take effect are. -/
theorem validator_nested_by_kind_iff
    (options : FieldOptions)
    (schema : RelationSchema)
    (field : Field)
    (plainEnum : ∀ name ∈ field.kind.enumName?, name.toList.all Segment.isNameCharacter)
    (plainTarget :
      ∀ target ∈ field.kind.relationTarget?, target.toList.all Segment.isNameCharacter)
    (plainSuffix : options.names.suffix.toList.all Segment.isNameCharacter) :
    Nested .byNumber (field.validator options schema).text.toList ∧
      (∀ contribution ∈ field.docs.effective, Nested .byNumber contribution.toList) ∧
      (Nested .byKind (field.validator options schema).text.toList ↔
        ∀ contribution ∈ field.docs.effective, Nested .byKind contribution.toList) := by
  have plain :
      ∀ name : String, name.toList.all Segment.isNameCharacter →
        ∀ character ∈ name.toList, isPlain character := by
    intro name inName character member
    exact isPlain_of_isNameCharacter (List.all_eq_true.mp inName character member)
  have expression : Nested .byKind (field.kind.expression options schema).toList :=
    FieldKind.nested_expression schema
      (fun name found => plain name (plainEnum name found))
      (fun target found => plain target (plainTarget target found))
      (plain _ plainSuffix)
  have numbered :
      ∀ contribution ∈ field.docs.effective, Nested .byNumber contribution.toList :=
    fun _ => nested_of_mem_effective
  exact ⟨(nested_validator_iff expression .byNumber).mpr numbered, numbered,
    nested_validator_iff expression .byKind⟩

/-- A list of roles, with a comment and a chain whose third segment is never closed. -/
def roles : Field where
  name := "roles"
  kind := .enumeration "Role"
  isList := true
  documentation := some "All roles.\n@zod.min(1) .refine((v) => v[0] !== ')').max([2)"

theorem validator_nested_by_kind_iff_roles :
    (roles.validator (.ofConfiguration {}) .base).text =
        "z.nativeEnum(Role).array().min(1).refine((v) => v[0] !== ')')" ∧
      Nested .byKind (roles.validator (.ofConfiguration {}) .base).text.toList := by
  have directives : roles.docs.effective = ["min(1)", "refine((v) => v[0] !== ')')"] := by
    decide +kernel
  refine ⟨by decide +kernel, ?_⟩
  apply (validator_nested_by_kind_iff (.ofConfiguration {}) .base roles (by decide +kernel)
    (by decide) (by decide +kernel)).2.2.mpr
  rw [directives]
  decide

/-- A text with a call in which a brace closes a bracket. -/
def codeWithMixedBrackets : Field where
  name := "code"
  kind := .scalar .string
  documentation := some "@zod.min([1\x7d)"

theorem validator_not_nested_by_kind :
    (FieldOptions.ofConfiguration {}).names.suffix.toList.all Segment.isNameCharacter ∧
      (codeWithMixedBrackets.validator (.ofConfiguration {}) .base).text =
        "z.string().min([1\x7d)" ∧
      ¬ Nested .byKind
        (codeWithMixedBrackets.validator (.ofConfiguration {}) .base).text.toList := by
  have text :
      (codeWithMixedBrackets.validator (.ofConfiguration {}) .base).text =
        "z.string().min([1\x7d)" := by
    decide +kernel
  refine ⟨by decide +kernel, text, ?_⟩
  rw [text]
  decide

end Field
end EntitySchema
