import EntitySchema.Proofs.BlockComments
import EntitySchema.Proofs.CasedNames
import EntitySchema.Proofs.NormalForms
import EntitySchema.Proofs.Specifiers

/-!
# Texts of one line

Names, specifiers and directives are put together from the texts of a data model, of its options and
of its paths.  No line feed gets in on the way: where none of these texts holds one, neither does
anything that is put together from them.  Directives and comment lines hold none in any case, for
they are parts of lines.
-/

namespace EntitySchema

namespace Text

/-- A text without a line feed. -/
def OneLine (text : String) : Prop :=
  '\n' ∉ text.toList

instance (text : String) : Decidable (OneLine text) :=
  inferInstanceAs (Decidable (¬ _))

@[simp] theorem oneLine_append (first second : String) :
    OneLine (first ++ second) ↔ OneLine first ∧ OneLine second := by
  simp only [OneLine, String.toList_append, List.mem_append, not_or]

/-- Texts on one line that are joined by one are on one line. -/
theorem oneLine_intercalate
    {separator : String}
    {parts : List String}
    (ofSeparator : OneLine separator)
    (ofParts : ∀ part ∈ parts, OneLine part) :
    OneLine (String.intercalate separator parts) := by
  intro member
  rw [String.toList_intercalate] at member
  rcases List.mem_of_mem_intercalate member with between | ⟨chars, known, inside⟩
  · exact ofSeparator between
  · obtain ⟨part, partMember, rfl⟩ := List.mem_map.mp known
    exact ofParts part partMember inside

theorem oneLine_join
    {parts : List String}
    (ofParts : ∀ part ∈ parts, OneLine part) :
    OneLine (String.join parts) := by
  induction parts with
  | nil => decide
  | cons part rest inductionHypothesis =>
      rw [List.forall_mem_cons] at ofParts
      rw [String.join_cons, oneLine_append]
      exact ⟨ofParts.1, inductionHypothesis ofParts.2⟩

/-! ## Lines -/

theorem lineFeed_not_mem_finishedLine
    {reversed : List Char}
    (absent : '\n' ∉ reversed) :
    '\n' ∉ finishedLine reversed := by
  rw [finishedLine.eq_def]
  split
  · rename_i earlier
    rw [List.mem_reverse]
    exact fun member => absent (List.mem_cons_of_mem _ member)
  · rwa [List.mem_reverse]

/-- Lines are cut at line feeds, so none is left in a line. -/
theorem lineFeed_not_mem_of_mem_linesFrom
    {reversed text line : List Char}
    (absent : '\n' ∉ reversed)
    (member : line ∈ linesFrom reversed text) :
    '\n' ∉ line := by
  induction text generalizing reversed with
  | nil =>
      rw [linesFrom] at member
      split_ifs at member
      · cases member
      · rwa [List.mem_singleton.mp member, List.mem_reverse]
  | cons character rest inductionHypothesis =>
      rw [linesFrom] at member
      split_ifs at member with ended
      · rcases List.mem_cons.mp member with rfl | later
        · exact lineFeed_not_mem_finishedLine absent
        · exact inductionHypothesis List.not_mem_nil later
      · refine inductionHypothesis ?_ member
        rw [List.mem_cons, not_or]
        exact ⟨Ne.symm ended, absent⟩

/-- No line of a text holds a line feed. -/
theorem lineFeed_not_mem_of_mem_lines
    {text line : List Char}
    (member : line ∈ lines text) :
    '\n' ∉ line :=
  lineFeed_not_mem_of_mem_linesFrom List.not_mem_nil member

theorem trim_subset (text : List Char) : trim text ⊆ text :=
  fun _ member =>
    (List.dropWhile_sublist _).mem ((List.rdropWhile_prefix _ _).subset member)

end Text

open Text (OneLine oneLine_append)

/-! ## Documentation -/

namespace Documentation

/-- A call has no other characters than the chain that it is cut from. -/
theorem call_subset_of_mem_segments
    {chain : List Char}
    {segment : Segment}
    (member : segment ∈ segments chain) :
    segment.call ⊆ chain := by
  fun_induction segments chain with
  | case1 => cases member
  | case2 chain first rest found inductionHypothesis =>
      obtain ⟨whole, -⟩ := Segment.split?_eq_some_iff.mp found
      rw [whole]
      rcases List.mem_cons.mp member with rfl | later
      · exact fun _ inCall => List.mem_cons_of_mem _ (List.mem_append_left _ inCall)
      · intro character inCall
        have inRest := (List.dropWhile_sublist _).mem (inductionHypothesis later inCall)
        exact List.mem_cons_of_mem _ (List.mem_append_right _ inRest)

/-- A directive has no other characters than its call. -/
theorem text_ofSegment_subset (segment : Segment) :
    (Directive.ofSegment segment).text.toList ⊆ segment.call := by
  rw [Directive.ofSegment]
  split_ifs
  · intro character member
    rw [Directive.text, String.toList_ofList] at member
    have inArguments := Text.trim_subset _ member
    simp [Segment.call, inArguments]
  · rw [Directive.text, String.toList_ofList]
    exact List.Subset.refl _

/-- A directive is written on its line. -/
theorem text_subset_of_mem_ofLine
    {line : List Char}
    {directive : Directive}
    (member : directive ∈ (ofLine line).directives) :
    directive.text.toList ⊆ line := by
  rw [ofLine] at member
  split at member
  · rename_i chain found
    obtain ⟨segment, known, rfl⟩ := List.mem_map.mp member
    obtain ⟨whole, -⟩ := chain?_eq_some_iff.mp found
    intro character inText
    have inCall := text_ofSegment_subset segment inText
    have inChain := Text.trim_subset _ (call_subset_of_mem_segments known inCall)
    refine (List.dropWhile_sublist _).mem (?_ : character ∈ Text.trimStart line)
    rw [whole]
    exact List.mem_append_right _ inChain
  · cases member

/-- Calls are read from one line of documentation, so every directive is on one line. -/
theorem oneLine_of_mem_directives
    {documentation : Option String}
    {directive : Directive}
    (member : directive ∈ (ofText? documentation).directives) :
    OneLine directive.text := by
  rw [ofText?_eq_ofLines] at member
  have each : ∀ line ∈ Text.lines (documentation.getD "").toList, '\n' ∉ line :=
    fun _ => Text.lineFeed_not_mem_of_mem_lines
  generalize Text.lines (documentation.getD "").toList = lines at member each
  induction lines with
  | nil => cases member
  | cons line rest inductionHypothesis =>
      rw [List.forall_mem_cons] at each
      rcases List.mem_append.mp member with here | later
      · exact fun lineFeed => each.1 (text_subset_of_mem_ofLine here lineFeed)
      · exact inductionHypothesis later each.2

/-- The lines of a block comment are lines with something on them. -/
theorem oneLine_of_mem_commentBlock
    {documentation : Option String}
    {line : String}
    (member : line ∈ (ofText? documentation).commentBlock) :
    OneLine line ∧ line ≠ "" := by
  rw [commentBlock] at member
  split_ifs at member
  · cases member
  · rcases List.mem_append.mp member with front | closing
    · rcases List.mem_cons.mp front with rfl | inside
      · decide
      · obtain ⟨comment, known, rfl⟩ := List.mem_map.mp inside
        obtain ⟨source, sourceMember, -, rfl⟩ := mem_comment_ofText?_iff.mp known
        rw [blockLine]
        split_ifs
        · decide
        · have oneLine : OneLine (String.ofList (Text.trimEnd source)) := by
            rw [OneLine, String.toList_ofList]
            exact fun lineFeed => Text.lineFeed_not_mem_of_mem_lines sourceMember
              ((List.rdropWhile_prefix _ _).subset lineFeed)
          refine ⟨(oneLine_append _ _).mpr ⟨by decide, oneLine⟩, ?_⟩
          simp
    · rw [List.mem_singleton.mp closing]
      decide

end Documentation

/-! ## Paths and specifiers -/

namespace Path

theorem mem_of_mem_segmentsFrom
    {reversed text segment : List Char}
    {character : Char}
    (member : segment ∈ segmentsFrom reversed text)
    (inside : character ∈ segment) :
    character ∈ reversed ∨ character ∈ text := by
  induction text generalizing reversed with
  | nil =>
      rw [List.mem_singleton.mp member, List.mem_reverse] at inside
      exact .inl inside
  | cons first rest inductionHypothesis =>
      rw [segmentsFrom] at member
      split_ifs at member
      · rcases List.mem_cons.mp member with rfl | later
        · exact .inl (List.mem_reverse.mp inside)
        · have behind := (inductionHypothesis later).resolve_left List.not_mem_nil
          exact .inr (List.mem_cons_of_mem _ behind)
      · rcases inductionHypothesis member with begun | behind
        · rcases List.mem_cons.mp begun with rfl | earlier
          · exact .inr List.mem_cons_self
          · exact .inl earlier
        · exact .inr (List.mem_cons_of_mem _ behind)

/-- The components of a path are spelled with its characters. -/
theorem text_subset_of_mem_components
    {path : String}
    {component : Component}
    (member : component ∈ components path) :
    component.text ⊆ path.toList := by
  rcases List.mem_append.mp member with root | below
  · split_ifs at root
    · rw [List.mem_singleton.mp root]
      exact List.nil_subset _
    · cases root
  · obtain ⟨segment, known, read⟩ := List.mem_filterMap.mp below
    rw [text_of_segmentComponent? read]
    exact fun _ inside => (mem_of_mem_segmentsFrom known inside).resolve_left List.not_mem_nil

/-- The components of a path have no other characters than the path. -/
theorem oneLine_components
    {path : String}
    (oneLine : OneLine path) :
    ∀ component ∈ components path, '\n' ∉ component.text :=
  fun _ member lineFeed => oneLine (text_subset_of_mem_components member lineFeed)

theorem oneLine_ofComponents
    {list : List Component}
    (oneLine : ∀ component ∈ list, '\n' ∉ component.text) :
    OneLine (ofComponents list) := by
  have joined (steps : List Component) (known : steps ⊆ list) :
      '\n' ∉ List.intercalate ['/'] (steps.map Component.text) := by
    intro member
    rcases List.mem_of_mem_intercalate member with slash | ⟨text, textMember, inside⟩
    · exact absurd slash (by decide)
    · obtain ⟨component, componentMember, rfl⟩ := List.mem_map.mp textMember
      exact oneLine component (known componentMember) inside
  rw [OneLine, ofComponents.eq_def]
  split
  · rw [String.toList_ofList, List.mem_cons, not_or]
    exact ⟨by decide, joined _ (List.subset_cons_self _ _)⟩
  · rw [String.toList_ofList]
    exact joined _ (List.Subset.refl _)

/-- A relative path climbs, and then enters what its target has. -/
theorem mem_relativeComponents
    {source target : List Component}
    {component : Component}
    (member : component ∈ relativeComponents source target) :
    component = .parent ∨ component ∈ target := by
  obtain ⟨common, -, entered⟩ := exists_dropCommon source target
  have known : (dropCommon source target).2 ⊆ target := by
    conv_rhs => rw [entered]
    exact List.subset_append_right _ _
  rw [relativeComponents] at member
  dsimp only at member
  split_ifs at member
  · exact .inr (known member)
  · rcases List.mem_append.mp member with climbing | entering
    · obtain ⟨-, -, rfl⟩ := List.mem_map.mp climbing
      exact .inl rfl
    · exact .inr (known entering)

/-- A relative path has nothing but steps to parents and components of its target. -/
theorem oneLine_relative
    {target : String}
    (oneLine : OneLine target)
    (source : String) :
    OneLine (relative source target) := by
  apply oneLine_ofComponents
  intro component member
  rcases mem_relativeComponents member with rfl | known
  · decide
  · exact oneLine_components oneLine component (normalizeComponents_subset _ known)

end Path

namespace Specifier

/-- A specifier has the characters of its path, slashes and dots. -/
theorem mem_of_mem_ofPathChars
    {path : List Char}
    {character : Char}
    (member : character ∈ ofPathChars path) :
    character ∈ path ∨ character = '/' ∨ character = '.' := by
  have plain (inside : character ∈ collapseSlashes (forwardSlashes path)) :
      character ∈ path ∨ character = '/' ∨ character = '.' := by
    obtain ⟨original, known, rfl⟩ := List.mem_map.mp ((collapseSlashes_sublist _).mem inside)
    split_ifs
    · exact .inr (.inl rfl)
    · exact .inl known
  rw [ofPathChars] at member
  split at member
  · rename_i package found
    exact plain ((packagePath?_suffix found).subset member)
  · split_ifs at member
    · exact plain member
    · rcases List.mem_cons.mp member with dot | behind
      · exact .inr (.inr dot)
      · rcases List.mem_cons.mp behind with slash | inside
        · exact .inr (.inl slash)
        · exact plain inside

theorem oneLine_ofPath
    {path : String}
    (oneLine : OneLine path) :
    OneLine (ofPath path) := by
  intro member
  rw [ofPath, String.toList_ofList] at member
  rcases mem_of_mem_ofPathChars member with inPath | slash | dot
  · exact oneLine inPath
  · exact absurd slash (by decide)
  · exact absurd dot (by decide)

end Specifier

namespace FileLayout

/-- The paths that specifiers lead to hold no line feed.  Of the output directory nothing but the
number of its components shows in a specifier. -/
@[mk_iff]
structure OneLine (layout : FileLayout) : Prop where
  schema : Text.OneLine layout.schema
  client : Text.OneLine layout.client

instance (layout : FileLayout) : Decidable layout.OneLine :=
  decidable_of_iff _ (oneLine_iff layout).symm

variable
  {layout : FileLayout}

theorem OneLine.clientSpecifier
    (oneLine : layout.OneLine) :
    Text.OneLine layout.clientSpecifier :=
  Specifier.oneLine_ofPath (Path.oneLine_relative oneLine.client layout.output)

theorem OneLine.schemaSpecifier
    (oneLine : layout.OneLine)
    {path : String}
    (ofPath : Text.OneLine path) :
    Text.OneLine (layout.schemaSpecifier path) := by
  refine Specifier.oneLine_ofPath (Path.oneLine_relative (Path.oneLine_ofComponents ?_) _)
  intro component member
  have joined := Path.normalizeComponents_subset _ member
  rw [Path.joinComponents] at joined
  split_ifs at joined
  · exact Path.oneLine_components ofPath component joined
  · rcases List.mem_append.mp joined with inDirectory | inPath
    · -- The directory has the components of the data model's path but the last.
      apply Path.oneLine_components oneLine.schema component
      cases found : Path.parentComponents? (Path.components layout.schema) with
      | none =>
          rw [found] at inDirectory
          cases inDirectory
      | some directory =>
          rw [found] at inDirectory
          rw [Path.parentComponents?] at found
          split at found
          · cases found
          · cases found
          · cases found
            exact List.dropLast_subset _ inDirectory
    · exact Path.oneLine_components ofPath component inPath

end FileLayout

/-! ## Names -/

theorem Text.isCaseForm_lineFeed : Text.isCaseForm '\n' = false := by decide

/-- What a casing brings into a name is no line feed. -/
theorem Casing.oneLine_apply
    {name : String}
    (oneLine : OneLine name)
    (casing : Casing) :
    OneLine (casing.apply name) := by
  intro member
  rw [apply, String.toList_ofList] at member
  rcases mem_of_mem_applyChars member with inName | underscore | letter
  · exact oneLine inName
  · exact absurd underscore (by decide)
  · rw [Text.isCaseForm_lineFeed] at letter
    cases letter

namespace SchemaNames

variable
  {names : SchemaNames}
  {name : String}

theorem oneLine_schema
    (ofSuffix : OneLine names.suffix)
    (ofName : OneLine name)
    (schema : RelationSchema) :
    OneLine (names.schema schema name) := by
  intro member
  rcases mem_of_mem_schema member with inName | inSuffix | underscore | letter
  · exact ofName inName
  · exact ofSuffix inSuffix
  · exact absurd underscore (by decide)
  · rw [Text.isCaseForm_lineFeed] at letter
    cases letter

theorem oneLine_completeInput
    (ofName : OneLine name) :
    OneLine (completeInput name) := by
  simpa [completeInput, ofName] using (by decide : OneLine "Complete" ∧ OneLine "Input")

theorem oneLine_completeOutput
    (ofName : OneLine name) :
    OneLine (completeOutput name) := by
  simpa [completeOutput, ofName] using (by decide : OneLine "Complete" ∧ OneLine "Output")

end SchemaNames

/-! ## Fields -/

/-- The validators of scalar types are fixed texts. -/
theorem ScalarType.oneLine_expression
    (options : FieldOptions)
    (type : ScalarType) :
    OneLine (type.expression options) := by
  cases type with
  | decimal =>
      rw [expression]
      split_ifs <;> decide
  | dateTime =>
      rw [expression]
      cases options.dateTimeMode <;> decide
  | string | int | bigInt | float | boolean | json | bytes | unsupported name =>
      rw [expression]
      decide

/-- The names in a field hold no line feed; its documentation may. -/
@[mk_iff]
structure Field.OneLine (field : Field) : Prop where
  name : Text.OneLine field.name
  enumName : ∀ name ∈ field.kind.enumName?, Text.OneLine name
  target : ∀ target ∈ field.kind.relationTarget?, Text.OneLine target

instance (field : Field) : Decidable field.OneLine :=
  decidable_of_iff _ (Field.oneLine_iff field).symm

namespace Field

variable
  {options : FieldOptions}
  {field : Field}

theorem OneLine.expression
    (oneLine : field.OneLine)
    (ofSuffix : Text.OneLine options.names.suffix)
    (schema : RelationSchema) :
    Text.OneLine (field.kind.expression options schema) := by
  cases kind : field.kind with
  | scalar type => exact type.oneLine_expression options
  | enumeration name =>
      have ofName : Text.OneLine name := oneLine.enumName name (by rw [kind]; rfl)
      simp only [FieldKind.expression, oneLine_append]
      exact ⟨⟨by decide, ofName⟩, by decide⟩
  | relation target =>
      have ofTarget : Text.OneLine target := oneLine.target target (by rw [kind]; rfl)
      exact SchemaNames.oneLine_schema ofSuffix ofTarget schema

/-- The validator of a field is written on one line, whatever its documentation says. -/
theorem OneLine.validator
    (oneLine : field.OneLine)
    (ofSuffix : Text.OneLine options.names.suffix)
    (schema : RelationSchema) :
    Text.OneLine (field.validator options schema).text := by
  have directive : ∀ directive ∈ field.docs.directives, Text.OneLine directive.text :=
    fun _ => Documentation.oneLine_of_mem_directives
  have base : Text.OneLine
      (field.docs.replacement?.getD (field.kind.expression options schema)) := by
    cases found : field.docs.replacement? with
    | none => exact oneLine.expression ofSuffix schema
    | some expression =>
        obtain ⟨source, known, read⟩ := List.exists_of_findSome?_eq_some found
        cases source with
        | replaceBase _ =>
            cases read
            exact directive _ known
        | append _ => cases read
  have calls : Text.OneLine
      (String.join (field.docs.appended.map fun call => "." ++ call)) := by
    apply Text.oneLine_join
    rw [List.forall_mem_map]
    intro call member
    obtain ⟨source, known, read⟩ := List.mem_filterMap.mp member
    cases source with
    | replaceBase _ => cases read
    | append _ =>
        cases read
        exact (oneLine_append _ _).mpr ⟨by decide, directive _ known⟩
  rw [text_validator, oneLine_append, oneLine_append, oneLine_append]
  refine ⟨⟨⟨base, ?_⟩, calls⟩, ?_⟩
  · split_ifs <;> decide
  · split_ifs
    · decide
    · cases options.nullability <;> decide

end Field
end EntitySchema
