import EntitySchema.Generation.FieldSchema
import EntitySchema.Proofs.Segments

/-!
# Written documentation

Documentation is written in lines.  A directive line carries a tag and a chain of segments with
white space between them, and every other line is a comment.  What documentation says is what its
lines say one after the other, and a directive line says what its segments say.
-/

namespace EntitySchema

namespace Text

/-! ## Trimming -/

variable
  {blank text : List Char}

theorem trimStart_of_blank
    (allBlank : ∀ character ∈ blank, isWhiteSpace character) :
    trimStart blank = [] :=
  List.dropWhile_eq_nil_iff.mpr allBlank

theorem trimStart_append
    (allBlank : ∀ character ∈ blank, isWhiteSpace character)
    (text : List Char) :
    trimStart (blank ++ text) = trimStart text :=
  List.dropWhile_append_of_pos allBlank

theorem trimStart_cons
    {character : Char}
    (visible : isWhiteSpace character = false)
    (rest : List Char) :
    trimStart (character :: rest) = character :: rest :=
  List.dropWhile_cons_of_neg (by simp [visible])

/-- White space behind a text is not part of its trimmed form. -/
theorem trimEnd_append
    (allBlank : ∀ character ∈ blank, isWhiteSpace character)
    (text : List Char) :
    trimEnd (text ++ blank) = trimEnd text := by
  have reversed : ∀ character ∈ blank.reverse, isWhiteSpace character := by
    simpa using allBlank
  rw [trimEnd, List.reverse_append, List.dropWhile_append_of_pos reversed, trimEnd]

/-- Behind a visible character, trimming looks at the rest only. -/
theorem trimEnd_concat_append
    {character : Char}
    (visible : isWhiteSpace character = false)
    (text rest : List Char) :
    trimEnd (text ++ [character] ++ rest) = text ++ [character] ++ trimEnd rest := by
  have stops : (character :: text.reverse).dropWhile isWhiteSpace = character :: text.reverse :=
    trimStart_cons visible _
  simp only [trimEnd, List.reverse_append, List.reverse_singleton, List.singleton_append,
    List.dropWhile_append, stops]
  split_ifs with empty
  · simp [List.isEmpty_iff.mp empty]
  · simp

/-- A text with a visible character at its end is trimmed at its start only. -/
theorem trim_concat
    {character : Char}
    (visible : isWhiteSpace character = false)
    (text : List Char) :
    trim (text ++ [character]) = trimStart (text ++ [character]) := by
  have kept : trimStart (text ++ [character]) = trimStart text ++ [character] := by
    rw [trimStart, List.dropWhile_append, List.dropWhile_cons_of_neg (by simp [visible])]
    split_ifs with empty
    · rw [trimStart, List.isEmpty_iff.mp empty, List.nil_append]
    · rfl
  have ends := trimEnd_concat_append visible (trimStart text) []
  rw [List.append_nil] at ends
  rw [trim, kept, ends]
  exact List.append_nil _

theorem trim_append
    (allBlank : ∀ character ∈ blank, isWhiteSpace character)
    (text : List Char) :
    trim (text ++ blank) = trim text := by
  rw [trim, trimStart, List.dropWhile_append]
  split_ifs with empty
  · rw [← trimStart, trimStart_of_blank allBlank, trim, trimStart, List.isEmpty_iff.mp empty]
  · rw [trimEnd_append allBlank, trim, trimStart]

/-- A text that starts with a visible character is trimmed at its end only. -/
theorem trim_cons
    {character : Char}
    (visible : isWhiteSpace character = false)
    (rest : List Char) :
    trim (character :: rest) = character :: trimEnd rest := by
  rw [trim, trimStart_cons visible]
  exact trimEnd_concat_append visible [] rest

/-- White space around visible characters is removed. -/
theorem trim_between
    {before after : List Char}
    (blankBefore : ∀ character ∈ before, isWhiteSpace character)
    (blankAfter : ∀ character ∈ after, isWhiteSpace character)
    (visible : ∀ character ∈ text, isWhiteSpace character = false) :
    trim (before ++ text ++ after) = text := by
  rw [trim_append blankAfter, trim, trimStart_append blankBefore, ← trim]
  rcases List.eq_nil_or_concat text with rfl | ⟨others, last, rfl⟩
  · rfl
  · rw [List.concat_eq_append] at visible ⊢
    rw [trim_concat (visible last (by simp))]
    exact List.dropWhile_eq_self_iff.2 fun nonempty => by
      simp [visible _ (List.getElem_mem nonempty)]

/-! ## Lines -/

/-- A text up to a line feed is a line. -/
theorem linesFrom_append
    {line : List Char}
    (oneLine : '\n' ∉ line)
    (reversed rest : List Char) :
    linesFrom reversed (line ++ '\n' :: rest) =
      finishedLine (line.reverse ++ reversed) :: linesFrom [] rest := by
  induction line generalizing reversed with
  | nil => simp [linesFrom]
  | cons character later inductionHypothesis =>
      rw [List.mem_cons, not_or] at oneLine
      rw [List.cons_append, linesFrom, if_neg (Ne.symm oneLine.1), inductionHypothesis oneLine.2,
        List.reverse_cons, List.append_assoc, List.singleton_append]

theorem linesFrom_last
    {line : List Char}
    (oneLine : '\n' ∉ line)
    (reversed : List Char) :
    linesFrom reversed line =
      if (line.reverse ++ reversed).isEmpty then [] else [(line.reverse ++ reversed).reverse] := by
  induction line generalizing reversed with
  | nil => rfl
  | cons character later inductionHypothesis =>
      rw [List.mem_cons, not_or] at oneLine
      rw [linesFrom, if_neg (Ne.symm oneLine.1), inductionHypothesis oneLine.2,
        List.reverse_cons, List.append_assoc, List.singleton_append]

theorem lines_append
    {line : List Char}
    (oneLine : '\n' ∉ line)
    (rest : List Char) :
    lines (line ++ '\n' :: rest) = finishedLine line.reverse :: lines rest := by
  rw [lines, linesFrom_append oneLine, List.append_nil, lines]

theorem lines_last
    {line : List Char}
    (oneLine : '\n' ∉ line)
    (nonempty : line ≠ []) :
    lines line = [line] := by
  rw [lines, linesFrom_last oneLine, List.append_nil, if_neg (by simpa using nonempty),
    List.reverse_reverse]

/-- A finished line lacks a carriage return at most. -/
theorem finishedLine_reverse (line : List Char) :
    finishedLine line.reverse = line ∨ line = finishedLine line.reverse ++ ['\r'] := by
  generalize reversed : line.reverse = characters
  obtain rfl : line = characters.reverse := by rw [← reversed, List.reverse_reverse]
  unfold finishedLine
  split
  · exact .inr (by simp)
  · exact .inl rfl

end Text

namespace Documentation

/-! ## Lines of documentation -/

variable
  {character : Char}
  {line chain : List Char}

theorem chain?_tag_cons
    (first : Char)
    (rest : List Char) :
    chain? (tag ++ first :: rest) =
      if first = '.' || Text.isWhiteSpace first then some (first :: rest) else none := by
  rw [chain?, if_pos (List.isPrefixOf_iff_prefix.mpr (List.prefix_append _ _)), List.drop_left]

/-- A line has a chain exactly when it starts with a tag that ends at a dot, at white space or with
the line. -/
theorem chain?_eq_some_iff :
    chain? line = some chain ↔
      line = tag ++ chain ∧ ∀ first ∈ chain.head?, first = '.' ∨ Text.isWhiteSpace first := by
  constructor
  · intro found
    have starts : tag <+: line := by
      by_contra other
      rw [chain?, if_neg (mt List.isPrefixOf_iff_prefix.mp other)] at found
      cases found
    obtain ⟨behind, rfl⟩ := starts
    cases behind with
    | nil =>
        cases found
        simp
    | cons first rest =>
        rw [chain?_tag_cons] at found
        split_ifs at found with ends
        cases found
        rw [Bool.or_eq_true, decide_eq_true_eq] at ends
        refine ⟨rfl, ?_⟩
        rintro other ⟨⟩
        exact ends
  · rintro ⟨rfl, ends⟩
    cases chain with
    | nil => rfl
    | cons first rest =>
        rw [chain?_tag_cons, if_pos]
        rw [Bool.or_eq_true, decide_eq_true_eq]
        exact ends first rfl

/-- White space behind a line is white space behind its chain. -/
theorem chain?_concat
    (blank : Text.isWhiteSpace character)
    (line : List Char) :
    chain? (line ++ [character]) = (chain? line).map (· ++ [character]) := by
  cases found : chain? line with
  | some chain =>
      obtain ⟨rfl, ends⟩ := chain?_eq_some_iff.mp found
      refine chain?_eq_some_iff.mpr ⟨List.append_assoc _ _ _, ?_⟩
      cases chain with
      | nil => simpa using Or.inr blank
      | cons first rest => exact ends
  | none =>
      rw [Option.map_none, Option.eq_none_iff_forall_ne_some]
      intro chain tagged
      obtain ⟨whole, ends⟩ := chain?_eq_some_iff.mp tagged
      -- If only the longer line has a chain, the added character belongs to the tag.
      rcases List.eq_nil_or_concat chain with rfl | ⟨front, last, rfl⟩
      · have ending := congrArg List.getLast? whole
        have last : character = 'd' := by simpa [tag] using ending
        rw [last] at blank
        exact absurd blank (by decide)
      · rw [List.concat_eq_append] at whole ends
        rw [← List.append_assoc] at whole
        have same : line = tag ++ front := (List.append_inj' whole rfl).1
        have read : chain? line = some front := by
          refine chain?_eq_some_iff.mpr ⟨same, ?_⟩
          cases front with
          | nil => simp
          | cons first rest => exact ends
        rw [found] at read
        cases read

theorem directivesOfChain_concat
    (blank : Text.isWhiteSpace character)
    (chain : List Char) :
    directivesOfChain (chain ++ [character]) = directivesOfChain chain := by
  have allBlank : ∀ other ∈ [character], Text.isWhiteSpace other := by simpa using blank
  rw [directivesOfChain, Text.trim_append allBlank, directivesOfChain]

/-- White space at the end of a line says nothing. -/
theorem ofLine_concat
    (blank : Text.isWhiteSpace character)
    (line : List Char) :
    ofLine (line ++ [character]) = ofLine line := by
  have allBlank : ∀ other ∈ [character], Text.isWhiteSpace other := by simpa using blank
  have comment : Text.trimEnd (line ++ [character]) = Text.trimEnd line :=
    Text.trimEnd_append allBlank line
  unfold ofLine
  rw [comment, Text.trimStart, List.dropWhile_append]
  split_ifs with empty
  · rw [← Text.trimStart, Text.trimStart_of_blank allBlank, Text.trimStart,
      List.isEmpty_iff.mp empty]
  · rw [chain?_concat blank, ← Text.trimStart]
    cases chain? (Text.trimStart line) with
    | none => rfl
    | some chain => simp [directivesOfChain_concat blank]

theorem ofLine_finishedLine (line : List Char) :
    ofLine (Text.finishedLine line.reverse) = ofLine line := by
  rcases Text.finishedLine_reverse line with same | shorter
  · rw [same]
  · conv_rhs => rw [shorter]
    exact (ofLine_concat (by decide) _).symm

/-- The directives of a text are those of its lines. -/
theorem directives_ofText
    {lines : List (List Char)}
    (oneLine : ∀ line ∈ lines, '\n' ∉ line) :
    (ofText (String.ofList (List.intercalate ['\n'] lines))).directives =
      lines.flatMap fun line => (ofLine line).directives := by
  rw [ofText, String.toList_ofList]
  induction lines with
  | nil => rfl
  | cons line rest inductionHypothesis =>
      rw [List.forall_mem_cons] at oneLine
      cases rest with
      | nil =>
          rw [List.intercalate_singleton]
          by_cases empty : line = []
          · rw [empty]
            rfl
          · rw [Text.lines_last oneLine.1 empty]
            simp [ofLines, append]
      | cons next later =>
          rw [List.intercalate_cons_cons, List.append_assoc, List.singleton_append,
            Text.lines_append oneLine.1, List.flatMap_cons, ← inductionHypothesis oneLine.2]
          simp [ofLines, append, ofLine_finishedLine]

/-! ## Writing documentation -/

/-- White space that stays on its line. -/
structure Gap where
  /-- The white space. -/
  chars : List Char
  blank : ∀ character ∈ chars, Text.isWhiteSpace character
  oneLine : '\n' ∉ chars

/-- A segment as it is written, with white space in front of it. -/
structure WrittenSegment where
  /-- The white space. -/
  gap : Gap
  /-- The segment. -/
  segment : Segment
  isName : Segment.isName segment.name
  nested : Nested .byKind segment.arguments
  oneLine : '\n' ∉ segment.arguments

/-- The text of a segment. -/
def WrittenSegment.chars (written : WrittenSegment) : List Char :=
  written.gap.chars ++ '.' :: written.segment.call

/-- Without white space at its ends, a line starts with a tag that ends at a dot, at white space or
with the line. -/
def IsTagged (line : List Char) : Prop :=
  ∃ rest,
    Text.trim line = tag ++ rest ∧ ∀ first ∈ rest.head?, first = '.' ∨ Text.isWhiteSpace first

/-- A line of documentation. -/
inductive WrittenLine
  /-- A line without a tag. -/
  | comment (chars : List Char) (oneLine : '\n' ∉ chars) (untagged : ¬ IsTagged chars)
  /-- A tag and a chain of segments, with white space around and between them. -/
  | directive (lead : Gap) (segments : List WrittenSegment) (trail : Gap)

namespace WrittenLine

/-- The text of a line. -/
def chars : WrittenLine -> List Char
  | comment chars _ _ => chars
  | directive lead segments trail =>
      lead.chars ++ (tag ++ (segments.flatMap WrittenSegment.chars ++ trail.chars))

/-- The segments of a line. -/
def segments : WrittenLine -> List Segment
  | comment _ _ _ => []
  | directive _ segments _ => segments.map WrittenSegment.segment

/-- The text of a documentation with the given lines. -/
def text (lines : List WrittenLine) : String :=
  String.ofList (List.intercalate ['\n'] (lines.map chars))

end WrittenLine

theorem lineFeed_not_mem_call
    (written : WrittenSegment) :
    '\n' ∉ written.segment.call := by
  have name : '\n' ∉ written.segment.name := by
    intro member
    exact absurd (Segment.isNameCharacter_of_mem written.isName member) (by decide +kernel)
  simp [Segment.call, name, written.oneLine]

theorem WrittenLine.oneLine (line : WrittenLine) : '\n' ∉ line.chars := by
  cases line with
  | comment chars oneLine untagged => exact oneLine
  | directive lead segments trail =>
      have chain : '\n' ∉ segments.flatMap WrittenSegment.chars := by
        intro member
        obtain ⟨written, -, member⟩ := List.mem_flatMap.mp member
        simp [WrittenSegment.chars, written.gap.oneLine, lineFeed_not_mem_call] at member
      simp [chars, lead.oneLine, trail.oneLine, chain, show '\n' ∉ tag by decide]

/-- A comment has no chain. -/
theorem chain?_of_untagged
    (untagged : ¬ IsTagged line) :
    chain? (Text.trimStart line) = none := by
  rw [Option.eq_none_iff_forall_ne_some]
  intro chain found
  obtain ⟨starts, ends⟩ := chain?_eq_some_iff.mp found
  refine untagged ⟨Text.trimEnd chain, ?_, ?_⟩
  · rw [Text.trim, starts]
    exact Text.trimEnd_concat_append (by decide) ['@', 'z', 'o'] chain
  · intro first member
    apply ends
    obtain ⟨rest, whole⟩ : Text.trimEnd chain <+: chain := List.rdropWhile_prefix _ _
    rw [← whole]
    cases trimmed : Text.trimEnd chain with
    | nil => simp [trimmed] at member
    | cons head tail =>
        rw [trimmed] at member
        exact member

/-- A chain is written so that the tag ends at it. -/
theorem head?_chain
    (segments : List WrittenSegment)
    (trail : Gap) :
    ∀ first ∈ (segments.flatMap WrittenSegment.chars ++ trail.chars).head?,
      first = '.' ∨ Text.isWhiteSpace first := by
  intro first member
  cases segments with
  | nil => exact .inr (trail.blank first (List.mem_of_mem_head? member))
  | cons written later =>
      rw [List.flatMap_cons, WrittenSegment.chars] at member
      cases gap : written.gap.chars with
      | nil =>
          rw [gap] at member
          cases member
          exact .inl rfl
      | cons head tail =>
          rw [gap] at member
          cases member
          exact .inr (written.gap.blank first (by simp [gap]))

/-- Reading a chain gives back its segments. -/
theorem segments_flatMap (segments : List WrittenSegment) :
    Documentation.segments (Text.trimStart (segments.flatMap WrittenSegment.chars)) =
      segments.map WrittenSegment.segment := by
  induction segments with
  | nil => exact segments_of_split?_eq_none rfl
  | cons written later inductionHypothesis =>
      have starts :
          Text.trimStart ((written :: later).flatMap WrittenSegment.chars) =
            '.' :: (written.segment.call ++ later.flatMap WrittenSegment.chars) := by
        rw [List.flatMap_cons, WrittenSegment.chars, List.append_assoc,
          Text.trimStart_append written.gap.blank]
        exact Text.trimStart_cons (by decide) _
      have read : Segment.split?
          (Text.trimStart ((written :: later).flatMap WrittenSegment.chars)) =
            some (written.segment, later.flatMap WrittenSegment.chars) :=
        Segment.split?_eq_some_iff.mpr ⟨starts, written.isName, written.nested.byNumber⟩
      rw [segments_of_split? read, inductionHypothesis, List.map_cons]

/-- The white space around a chain is trimmed away. -/
theorem trim_chain
    (segments : List WrittenSegment)
    (trail : Gap) :
    Text.trim (segments.flatMap WrittenSegment.chars ++ trail.chars) =
      Text.trimStart (segments.flatMap WrittenSegment.chars) := by
  rw [Text.trim_append trail.blank]
  rcases List.eq_nil_or_concat segments with rfl | ⟨earlier, last, rfl⟩
  · rfl
  · -- A chain ends with the closing parenthesis of its last segment.
    have ends :
        (earlier.concat last).flatMap WrittenSegment.chars =
          earlier.flatMap WrittenSegment.chars ++ (last.gap.chars ++
            '.' :: (last.segment.name ++ '(' :: last.segment.arguments)) ++ [')'] := by
      simp [WrittenSegment.chars, Segment.call]
    rw [ends]
    exact Text.trim_concat (by decide) _

/-- A directive line says what its segments say. -/
theorem directives_ofLine (line : WrittenLine) :
    (ofLine line.chars).directives = line.segments.map Directive.ofSegment := by
  cases line with
  | comment chars oneLine untagged =>
      rw [ofLine, WrittenLine.chars, chain?_of_untagged untagged]
      rfl
  | directive lead segments trail =>
      have starts :
          Text.trimStart (WrittenLine.directive lead segments trail).chars =
            tag ++ (segments.flatMap WrittenSegment.chars ++ trail.chars) := by
        rw [WrittenLine.chars, Text.trimStart_append lead.blank]
        exact Text.trimStart_cons (by decide) _
      have found := chain?_eq_some_iff.mpr ⟨starts, head?_chain segments trail⟩
      rw [ofLine, found]
      simp only [directivesOfChain, trim_chain, segments_flatMap, WrittenLine.segments]

/-- Documentation says what the segments of its lines say. -/
theorem directives_text (lines : List WrittenLine) :
    (ofText (WrittenLine.text lines)).directives =
      (lines.flatMap WrittenLine.segments).map Directive.ofSegment := by
  have oneLine : ∀ line ∈ lines.map WrittenLine.chars, '\n' ∉ line := by
    intro line member
    obtain ⟨written, -, rfl⟩ := List.mem_map.mp member
    exact written.oneLine
  rw [WrittenLine.text, directives_ofText oneLine, List.flatMap_map, List.map_flatMap]
  simp only [directives_ofLine]

/-! ## Directives of segments -/

/-- The texts of the directives that take effect: the first replacement and all calls. -/
def effective (documentation : Documentation) : List String :=
  documentation.replacement?.toList ++ documentation.appended

/-- Whether a segment replaces the inferred expression. -/
def Segment.isReplacement (segment : Segment) : Bool :=
  segment.name = Directive.replacementName

theorem replacement?_ofSegment (segment : Segment) :
    (Directive.ofSegment segment).replacement? =
      if segment.isReplacement then some (String.ofList (Text.trim segment.arguments))
      else none := by
  by_cases replaces : segment.name = Directive.replacementName <;>
    simp [Directive.ofSegment, Segment.isReplacement, replaces, Directive.replacement?]

theorem appended?_ofSegment (segment : Segment) :
    (Directive.ofSegment segment).appended? =
      if segment.isReplacement then none else some (String.ofList segment.call) := by
  by_cases replaces : segment.name = Directive.replacementName <;>
    simp [Directive.ofSegment, Segment.isReplacement, replaces, Directive.appended?]

section

variable
  {documentation : Documentation}
  {segments : List Segment}

/-- The first replacing segment decides on the replacement. -/
theorem replacement?_of_directives
    (read : documentation.directives = segments.map Directive.ofSegment) :
    documentation.replacement? =
      (segments.find? Segment.isReplacement).map fun segment =>
        String.ofList (Text.trim segment.arguments) := by
  rw [replacement?, read, List.findSome?_map]
  clear read
  induction segments with
  | nil => rfl
  | cons segment rest inductionHypothesis =>
      rw [List.findSome?_cons, Function.comp_apply, replacement?_ofSegment, List.find?_cons]
      cases segment.isReplacement with
      | false => exact inductionHypothesis
      | true => rfl

/-- All other segments append their calls. -/
theorem appended_of_directives
    (read : documentation.directives = segments.map Directive.ofSegment) :
    documentation.appended =
      (segments.filter fun segment => !segment.isReplacement).map fun segment =>
        String.ofList segment.call := by
  rw [appended, read, List.filterMap_map]
  clear read
  induction segments with
  | nil => rfl
  | cons segment rest inductionHypothesis =>
      rw [List.filterMap_cons, Function.comp_apply, appended?_ofSegment, List.filter_cons]
      cases segment.isReplacement with
      | false => exact congrArg (String.ofList segment.call :: ·) inductionHypothesis
      | true => exact inductionHypothesis

end

end Documentation

namespace Field

open Documentation (Gap Segment WrittenLine)

/-- The text of a validator is its first part, the list call, the calls of the documentation and
the call that admits missing values. -/
theorem text_validator
    (options : FieldOptions)
    (schema : RelationSchema)
    (field : Field) :
    (field.validator options schema).text =
      field.docs.replacement?.getD (field.kind.expression options schema) ++
        (if field.isList then ".array()" else "") ++
        String.join (field.docs.appended.map fun call => "." ++ call) ++
        (if field.isRequired ∨ field.kind = .scalar .json then ""
          else "." ++ options.nullability.modifier) := by
  have listed :
      String.join (field.listModifiers.map fun call => "." ++ call) =
        if field.isList then ".array()" else "" := by
    rw [listModifiers]
    split_ifs <;> rfl
  have missing :
      String.join ((field.nullabilityModifiers options).map fun call => "." ++ call) =
        if field.isRequired ∨ field.kind = .scalar .json then ""
        else "." ++ options.nullability.modifier := by
    rw [nullabilityModifiers]
    by_cases required : field.isRequired <;> by_cases json : field.kind = .scalar .json <;>
      simp [required, json]
  rw [Code.Validator.text, validator, List.map_append, List.map_append, String.join_append,
    String.join_append, listed, missing, ← String.append_assoc, ← String.append_assoc]

/-- A field with written documentation has the validator that its documentation describes: the
trimmed arguments of the first replacing segment, or else the inferred expression; the list call if
it holds a list; every other segment in the order of the lines; and the call that admits missing
values if it may be missing and is not a JSON field. -/
theorem validator_of_written_documentation
    (options : FieldOptions)
    (schema : RelationSchema)
    (field : Field)
    (lines : List WrittenLine) :
    ((field.documented (WrittenLine.text lines)).validator options schema).text =
      (match (lines.flatMap WrittenLine.segments).find? fun segment =>
          segment.name = "custom".toList with
        | some segment => String.ofList (Text.trim segment.arguments)
        | none => field.kind.expression options schema) ++
      (if field.isList then ".array()" else "") ++
      String.join
        (((lines.flatMap WrittenLine.segments).filter fun segment =>
            segment.name ≠ "custom".toList).map fun segment =>
          "." ++ String.ofList segment.name ++ "(" ++ String.ofList segment.arguments ++ ")") ++
      (if field.isRequired ∨ field.kind = .scalar .json then ""
        else match options.nullability with
          | .nullish => ".nullish()"
          | .nullable => ".nullable()") := by
  have read :
      (field.documented (WrittenLine.text lines)).docs.directives =
        (lines.flatMap WrittenLine.segments).map Directive.ofSegment :=
    Documentation.directives_text lines
  have call :
      ∀ segment : Segment,
        "." ++ String.ofList segment.call =
          "." ++ String.ofList segment.name ++ "(" ++ String.ofList segment.arguments ++ ")" := by
    intro segment
    rw [String.ext_iff]
    simp [Segment.call]
  have missing :
      "." ++ options.nullability.modifier =
        match options.nullability with
          | .nullish => ".nullish()"
          | .nullable => ".nullable()" := by
    cases options.nullability <;> rfl
  have others :
      ((lines.flatMap WrittenLine.segments).filter fun segment => !segment.isReplacement) =
        (lines.flatMap WrittenLine.segments).filter fun segment =>
          segment.name ≠ "custom".toList := by
    apply List.filter_congr
    intro segment member
    exact (decide_not).symm
  rw [text_validator, Documentation.replacement?_of_directives read,
    Documentation.appended_of_directives read, others, missing, List.map_map]
  simp only [Function.comp_def, call]
  congr 3
  change
    (((lines.flatMap WrittenLine.segments).find? fun segment =>
        segment.name = "custom".toList).map _).getD (field.kind.expression options schema) = _
  cases (lines.flatMap WrittenLine.segments).find? fun segment =>
    segment.name = "custom".toList <;> rfl

/-- No white space. -/
def noGap : Gap :=
  ⟨[], List.forall_mem_nil _, List.not_mem_nil⟩

/-- A single space. -/
def spaceGap : Gap :=
  ⟨[' '], List.all_eq_true.mp (by decide), by decide⟩

/-- A comment and two lines with segments, two of which replace the inferred expression. -/
def slugDocumentation : List WrittenLine :=
  [ .comment "Title in addresses.".toList (by decide) (by
      rintro ⟨rest, starts, -⟩
      have first : some 'T' = some '@' := congrArg List.head? starts
      exact absurd first (by decide)),
    .directive spaceGap
      [ ⟨noGap, ⟨"min".toList, "2".toList⟩, by decide, by decide, by decide⟩,
        ⟨spaceGap, ⟨"regex".toList, "/[a-z]+(-[a-z]+)*/".toList⟩, by decide, by decide,
          by decide⟩ ]
      noGap,
    .directive noGap
      [ ⟨spaceGap, ⟨"custom".toList, " slug(')') ".toList⟩, by decide, by decide, by decide⟩,
        ⟨noGap, ⟨"custom".toList, "z.any()".toList⟩, by decide, by decide, by decide⟩ ]
      spaceGap ]

example :
    WrittenLine.text slugDocumentation =
      "Title in addresses.\n @zod.min(2) .regex(/[a-z]+(-[a-z]+)*/)\n" ++
        "@zod .custom( slug(')') ).custom(z.any()) " := by
  decide

theorem validator_of_written_documentation_slugs :
    ((Field.documented
        { name := "slugs", kind := .scalar .string, isList := true, isRequired := false }
        (WrittenLine.text slugDocumentation)).validator (.ofConfiguration {}) .base).text =
      "slug(')').array().min(2).regex(/[a-z]+(-[a-z]+)*/).nullish()" := by
  rw [validator_of_written_documentation]
  decide

end Field
end EntitySchema
