import EntitySchema.Proofs.WrittenDocumentation

/-!
# Documentation line by line

A line of documentation says the same wherever it stands and whatever stands around it.  What
documentation says is therefore put together from its lines, and lines without a tag can come and go
without any effect on validators.
-/

namespace EntitySchema

/-! ## Lines on both sides of a line feed -/

namespace Text

theorem linesFrom_append_lineFeed (reversed before after : List Char) :
    linesFrom reversed (before ++ '\n' :: after) =
      linesFrom reversed (before ++ ['\n']) ++ lines after := by
  induction before generalizing reversed with
  | nil => simp [linesFrom, lines]
  | cons character rest inductionHypothesis =>
      rw [List.cons_append, List.cons_append, linesFrom, linesFrom]
      split_ifs with lineFeed
      · rw [inductionHypothesis, List.cons_append]
      · exact inductionHypothesis (character :: reversed)

/-- The lines up to a line feed do not depend on what follows it. -/
theorem lines_append_lineFeed (before after : List Char) :
    lines (before ++ '\n' :: after) = lines (before ++ ['\n']) ++ lines after :=
  linesFrom_append_lineFeed [] before after

/-- Behind a text that is empty or ends with a line feed, lines are read afresh. -/
theorem lines_append_of_ended
    {before : List Char}
    (ended : before = [] ∨ ∃ earlier, before = earlier ++ ['\n'])
    (after : List Char) :
    lines (before ++ after) = lines before ++ lines after := by
  rcases ended with rfl | ⟨earlier, rfl⟩
  · rfl
  · rw [List.append_assoc]
    exact lines_append_lineFeed earlier after

/-- Trimming takes white space from the end of a text. -/
theorem exists_trimEnd_append (text : List Char) :
    ∃ blank, (∀ character ∈ blank, isWhiteSpace character) ∧ trimEnd text ++ blank = text :=
  ⟨text.rtakeWhile isWhiteSpace, fun _ => List.mem_rtakeWhile_imp,
    List.rdropWhile_append_rtakeWhile⟩

end Text

namespace Documentation

variable
  {text line : List Char}

/-! ## What lines say one after the other -/

@[simp] theorem directives_append (first second : Documentation) :
    (first.append second).directives = first.directives ++ second.directives :=
  rfl

theorem append_assoc (first second third : Documentation) :
    (first.append second).append third = first.append (second.append third) := by
  simp only [append, List.append_assoc]

@[simp] theorem append_empty (documentation : Documentation) :
    documentation.append {} = documentation := by
  simp only [append, List.append_nil]

theorem ofLines_append (first second : List (List Char)) :
    ofLines (first ++ second) = (ofLines first).append (ofLines second) := by
  induction first with
  | nil => rfl
  | cons line rest inductionHypothesis =>
      change (ofLine line).append (ofLines (rest ++ second)) =
        ((ofLine line).append (ofLines rest)).append (ofLines second)
      rw [inductionHypothesis, append_assoc]

@[simp] theorem ofLines_singleton (line : List Char) : ofLines [line] = ofLine line :=
  append_empty (ofLine line)

/-- A line feed at the end of a line that has begun says nothing.  That line has begun with the
reversed characters, unless the text goes on with it or with a later line. -/
theorem ofLines_linesFrom_concat
    {reversed : List Char}
    (unended : text.getLast? ≠ some '\n')
    (begun : text = [] → reversed ≠ []) :
    ofLines (Text.linesFrom reversed (text ++ ['\n'])) =
      ofLines (Text.linesFrom reversed text) := by
  induction text generalizing reversed with
  | nil =>
      have finished : ofLine (Text.finishedLine reversed) = ofLine reversed.reverse := by
        rw [← ofLine_finishedLine reversed.reverse, List.reverse_reverse]
      have nonempty : ¬ reversed.isEmpty := by simpa using begun rfl
      have ended : Text.linesFrom reversed ['\n'] = [Text.finishedLine reversed] := rfl
      rw [List.nil_append, ended, Text.linesFrom, if_neg nonempty, ofLines_singleton,
        ofLines_singleton, finished]
  | cons character rest inductionHypothesis =>
      rw [List.cons_append, Text.linesFrom, Text.linesFrom]
      split_ifs with lineFeed
      · have goesOn : rest ≠ [] := by
          rintro rfl
          exact unended (by rw [lineFeed]; rfl)
        have restUnended : rest.getLast? ≠ some '\n' := by
          rwa [List.getLast?_cons_of_ne_nil goesOn] at unended
        have later : ofLines (Text.linesFrom [] (rest ++ ['\n'])) =
            ofLines (Text.linesFrom [] rest) :=
          inductionHypothesis restUnended (fun empty => absurd empty goesOn)
        exact congrArg (ofLine (Text.finishedLine reversed)).append later
      · apply inductionHypothesis _ (by simp)
        cases rest with
        | nil => simp
        | cons next others => exact unended

/-- The lines of two texts that a line feed joins say what the lines of each text say. -/
theorem ofLines_lineFeed
    (nonempty : text ≠ [])
    (unended : text.getLast? ≠ some '\n')
    (after : List Char) :
    ofLines (Text.lines (text ++ '\n' :: after)) =
      (ofLines (Text.lines text)).append (ofLines (Text.lines after)) := by
  have closed : ofLines (Text.lines (text ++ ['\n'])) = ofLines (Text.lines text) :=
    ofLines_linesFrom_concat unended (fun empty => absurd empty nonempty)
  rw [Text.lines_append_lineFeed, ofLines_append, closed]

/-- A line behind whole lines says what it says by itself. -/
theorem ofLines_line
    {before : List Char}
    (ended : before = [] ∨ ∃ earlier, before = earlier ++ ['\n'])
    (oneLine : '\n' ∉ line)
    (after : List Char) :
    ofLines (Text.lines (before ++ (line ++ '\n' :: after))) =
      ((ofLines (Text.lines before)).append (ofLine line)).append (ofLines (Text.lines after)) := by
  rw [Text.lines_append_of_ended ended, ofLines_append, Text.lines_append oneLine, append_assoc,
    ← ofLine_finishedLine line]
  rfl

/-! ## Lines without a tag -/

/-- A line is a directive exactly when it is tagged. -/
theorem chain?_eq_none_iff : chain? (Text.trimStart line) = none ↔ ¬ IsTagged line := by
  refine ⟨?_, chain?_of_untagged⟩
  rintro untagged ⟨rest, trimmed, ends⟩
  obtain ⟨blank, allBlank, whole⟩ := Text.exists_trimEnd_append (Text.trimStart line)
  rw [← Text.trim, trimmed] at whole
  have found : chain? (Text.trimStart line) = some (rest ++ blank) := by
    rw [chain?_eq_some_iff, ← whole, List.append_assoc]
    refine ⟨rfl, fun first member => ?_⟩
    cases rest with
    | nil => exact .inr (allBlank first (List.mem_of_mem_head? member))
    | cons head tail => exact ends first member
  rw [untagged] at found
  cases found

theorem ofLine_of_untagged
    (untagged : ¬ IsTagged line) :
    ofLine line = { comment := [String.ofList (Text.trimEnd line)] } := by
  rw [ofLine, chain?_eq_none_iff.mpr untagged]

theorem directives_of_untagged
    (untagged : ¬ IsTagged line) :
    (ofLine line).directives = [] := by
  rw [ofLine_of_untagged untagged]

/-! ## Texts -/

theorem ofText_lineFeed
    {first : String}
    (nonempty : first ≠ "")
    (unended : first.toList.getLast? ≠ some '\n')
    (second : String) :
    ofText (first ++ "\n" ++ second) = (ofText first).append (ofText second) := by
  have begun : first.toList ≠ [] := by simpa using nonempty
  have read := ofLines_lineFeed begun unended second.toList
  rw [ofText, String.toList_append, String.toList_append, List.append_assoc]
  exact read

theorem toList_ended
    {before : String}
    (ended : before = "" ∨ ∃ earlier, before = earlier ++ "\n") :
    before.toList = [] ∨ ∃ earlier, before.toList = earlier ++ ['\n'] := by
  rcases ended with rfl | ⟨earlier, rfl⟩
  · exact .inl rfl
  · exact .inr ⟨earlier.toList, String.toList_append⟩

theorem ofText_append_of_ended
    {before : String}
    (ended : before = "" ∨ ∃ earlier, before = earlier ++ "\n")
    (after : String) :
    ofText (before ++ after) = (ofText before).append (ofText after) := by
  rw [ofText, String.toList_append, Text.lines_append_of_ended (toList_ended ended),
    ofLines_append]
  rfl

theorem ofText_line
    {before line : String}
    (ended : before = "" ∨ ∃ earlier, before = earlier ++ "\n")
    (oneLine : '\n' ∉ line.toList)
    (after : String) :
    ofText (before ++ line ++ "\n" ++ after) =
      ((ofText before).append (ofLine line.toList)).append (ofText after) := by
  have read := ofLines_line (toList_ended ended) oneLine after.toList
  rw [ofText, String.toList_append, String.toList_append, String.toList_append,
    List.append_assoc, List.append_assoc]
  exact read

theorem directives_ofText_untagged
    {line : String}
    (oneLine : '\n' ∉ line.toList)
    (untagged : ¬ IsTagged line.toList) :
    (ofText line).directives = [] := by
  by_cases empty : line.toList = []
  · rw [ofText, empty]
    rfl
  · rw [ofText, Text.lines_last oneLine empty, ofLines_singleton, ofLine_of_untagged untagged]

/-- A line without a tag that is put between two lines brings no directive. -/
theorem directives_insert
    {before line : String}
    (ended : before = "" ∨ ∃ earlier, before = earlier ++ "\n")
    (oneLine : '\n' ∉ line.toList)
    (untagged : ¬ IsTagged line.toList)
    (after : String) :
    (ofText (before ++ line ++ "\n" ++ after)).directives =
      (ofText (before ++ after)).directives := by
  rw [ofText_line ended oneLine, ofText_append_of_ended ended, directives_append,
    directives_append, directives_of_untagged untagged, List.append_nil, directives_append]

/-- A line without a tag that is put behind a text brings no directive. -/
theorem directives_concat
    {line : String}
    (oneLine : '\n' ∉ line.toList)
    (untagged : ¬ IsTagged line.toList)
    (text : String) :
    (ofText (text ++ "\n" ++ line)).directives = (ofText text).directives := by
  have nothing := directives_ofText_untagged oneLine untagged
  by_cases ended : text = "" ∨ text.toList.getLast? = some '\n'
  · -- The line feed then ends an empty line of its own.
    have endedText : text = "" ∨ ∃ earlier, text = earlier ++ "\n" := by
      refine ended.imp_right fun last => ?_
      obtain ⟨earlier, whole⟩ := List.getLast?_eq_some_iff.mp last
      exact ⟨String.ofList earlier, by rw [String.ext_iff]; simpa using whole⟩
    have empty : ¬ IsTagged "".toList := chain?_eq_none_iff.mp rfl
    have read : ofText (text ++ "" ++ "\n" ++ line) = _ :=
      ofText_line endedText (by decide) line
    rw [String.append_empty] at read
    rw [read, directives_append, nothing, List.append_nil, directives_append,
      directives_of_untagged empty, List.append_nil]
  · rw [not_or] at ended
    rw [ofText_lineFeed ended.1 ended.2, directives_append, nothing, List.append_nil]

end Documentation

namespace Field

open Documentation (IsTagged ofLine ofText)

/-- Documentation decides on a validator through its directives only. -/
theorem validator_eq_of_directives
    {text other : String}
    (same : (ofText text).directives = (ofText other).directives)
    (options : FieldOptions)
    (schema : RelationSchema)
    (field : Field) :
    (field.documented text).validator options schema =
      (field.documented other).validator options schema := by
  have replaced : (field.documented text).docs.replacement? =
      (field.documented other).docs.replacement? :=
    congrArg (List.findSome? Directive.replacement?) same
  have appended : (field.documented text).docs.appended = (field.documented other).docs.appended :=
    congrArg (List.filterMap Directive.appended?) same
  rw [validator, replaced, appended]
  rfl

/-- Documentation is read line by line.  Two texts with a line feed between them say what the first
says and then what the second says, if the first is not empty and does not end with a line feed
itself.  Whatever a line holds, the lines before it and behind it say what they say without it.
Where lines without a tag are put in or left out, the validator of the field stays the same. -/
theorem lines_read_separately :
    (∀ first second : String, first ≠ "" → first.toList.getLast? ≠ some '\n' →
      (ofText (first ++ "\n" ++ second)).comment =
          (ofText first).comment ++ (ofText second).comment ∧
        (ofText (first ++ "\n" ++ second)).directives =
          (ofText first).directives ++ (ofText second).directives) ∧
    (∀ before line after : String,
      (before = "" ∨ ∃ earlier, before = earlier ++ "\n") → '\n' ∉ line.toList →
        (ofText (before ++ line ++ "\n" ++ after)).comment =
            (ofText before).comment ++ (ofLine line.toList).comment ++ (ofText after).comment ∧
          (ofText (before ++ line ++ "\n" ++ after)).directives =
            (ofText before).directives ++ (ofLine line.toList).directives ++
              (ofText after).directives) ∧
    ∀ (options : FieldOptions) (schema : RelationSchema) (field : Field) (line : String),
      '\n' ∉ line.toList → ¬ IsTagged line.toList →
        (∀ before after : String, (before = "" ∨ ∃ earlier, before = earlier ++ "\n") →
          (field.documented (before ++ line ++ "\n" ++ after)).validator options schema =
            (field.documented (before ++ after)).validator options schema) ∧
        ∀ text : String,
          (field.documented (text ++ "\n" ++ line)).validator options schema =
            (field.documented text).validator options schema := by
  refine ⟨?_, ?_, ?_⟩
  · intro first second nonempty unended
    rw [Documentation.ofText_lineFeed nonempty unended]
    exact ⟨rfl, rfl⟩
  · intro before line after ended oneLine
    rw [Documentation.ofText_line ended oneLine]
    exact ⟨rfl, rfl⟩
  · intro options schema field line oneLine untagged
    refine ⟨fun before after ended => ?_, fun text => ?_⟩
    · have same := Documentation.directives_insert ended oneLine untagged after
      exact field.validator_eq_of_directives same options schema
    · have same := Documentation.directives_concat oneLine untagged text
      exact field.validator_eq_of_directives same options schema

/-- A field that documentation can be given to. -/
def title : Field where
  name := "title"
  kind := .scalar .string

theorem lines_read_separately_title :
    ("Shown to all.\r".toList.getLast? ≠ some '\n' ∧
      (ofText ("Shown to all.\r" ++ "\n" ++ "@zod.min(1)")).comment =
        (ofText "Shown to all.\r").comment ++ (ofText "@zod.min(1)").comment) ∧
    ('\n' ∉ "@zod.max('(".toList ∧
      (ofText ("@zod.trim()\n" ++ "@zod.max('(" ++ "\n" ++ "@zod.min(1)")).directives =
        (ofText "@zod.trim()\n").directives ++ (ofLine "@zod.max('(".toList).directives ++
          (ofText "@zod.min(1)").directives) ∧
    (¬ IsTagged "@zodiac".toList ∧
      (title.documented ("@zod.trim()\r\n" ++ "@zodiac" ++ "\n" ++ "@zod.min(1)")).validator
          (.ofConfiguration {}) .base =
        (title.documented ("@zod.trim()\r\n" ++ "@zod.min(1)")).validator
          (.ofConfiguration {}) .base ∧
      (title.documented ("@zod.trim()\r" ++ "\n" ++ "@zodiac")).validator
          (.ofConfiguration {}) .base =
        (title.documented "@zod.trim()\r").validator (.ofConfiguration {}) .base) := by
  obtain ⟨joined, lines, validators⟩ := lines_read_separately
  have untagged : ¬ IsTagged "@zodiac".toList := Documentation.chain?_eq_none_iff.mp (by decide)
  obtain ⟨inserted, added⟩ :=
    validators (.ofConfiguration {}) .base title "@zodiac" (by decide) untagged
  refine ⟨⟨by decide, (joined _ _ (by decide) (by decide)).1⟩, ⟨by decide, ?_⟩, untagged, ?_, ?_⟩
  · exact (lines _ _ _ (.inr ⟨"@zod.trim()", rfl⟩) (by decide)).2
  · exact inserted _ _ (.inr ⟨"@zod.trim()\r", rfl⟩)
  · exact added _

end Field
end EntitySchema
