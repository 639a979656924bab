import EntitySchema.Code.Printer
import EntitySchema.Generation
import Mathlib.Data.List.DropRight
import Mathlib.Data.List.Forall2

/-!
# Formatting

The options for indentation, quotes, semicolons and trailing commas decide nothing about the
modules of a run.  In the text of a module they change what its lines are indented by and whether
a line ends with a comma or a semicolon.
-/

namespace EntitySchema

namespace Code

/-! ## Bare lines -/

/-- Whether lines may be indented by a character. -/
def isIndentation (character : Char) : Bool :=
  character = ' ' || character = '\t'

/-- Whether a character can end a statement or an entry. -/
def isTerminator (character : Char) : Bool :=
  character = ',' || character = ';'

/-- A line without its indentation and without commas and semicolons at its end. -/
def bareLine (line : List Char) : List Char :=
  (line.dropWhile isIndentation).rdropWhile isTerminator

/-- The lines of a text, each without indentation and without commas and semicolons at its end. -/
def bareLines (text : List Char) : List (List Char) :=
  (text.splitOn '\n').map bareLine

theorem bareLine_indented
    {indentation : List Char}
    (blank : ∀ character ∈ indentation, isIndentation character)
    (line : List Char) :
    bareLine (indentation ++ line) = bareLine line := by
  rw [bareLine, List.dropWhile_append_of_pos blank, bareLine]

theorem rdropWhile_terminated
    {ending : List Char}
    (terminates : ∀ character ∈ ending, isTerminator character)
    (line : List Char) :
    (line ++ ending).rdropWhile isTerminator = line.rdropWhile isTerminator := by
  have reversed : ∀ character ∈ ending.reverse, isTerminator character := by
    simpa using terminates
  rw [List.rdropWhile, List.reverse_append, List.dropWhile_append_of_pos reversed, List.rdropWhile]

theorem bareLine_terminated
    {ending : List Char}
    (terminates : ∀ character ∈ ending, isTerminator character)
    (line : List Char) :
    bareLine (line ++ ending) = bareLine line := by
  have visible : ending.dropWhile isIndentation = ending := by
    cases ending with
    | nil => rfl
    | cons first rest =>
        have terminator := terminates first List.mem_cons_self
        refine List.dropWhile_cons_of_neg ?_
        simp only [isTerminator, isIndentation, Bool.or_eq_true, decide_eq_true_eq] at terminator ⊢
        rcases terminator with rfl | rfl <;> decide
  rw [bareLine, bareLine, List.dropWhile_append]
  split_ifs with empty
  · -- A line of indentation only is bare of everything, with or without its ending.
    rw [visible, List.isEmpty_iff.mp empty, List.rdropWhile_nil, List.rdropWhile_eq_nil_iff]
    exact terminates
  · exact rdropWhile_terminated terminates _

theorem bareLines_of_line
    {line : List Char}
    (oneLine : '\n' ∉ line) :
    bareLines line = [bareLine line] := by
  rw [bareLines, List.splitOn_eq_singleton oneLine, List.map_singleton]

/-- A line break separates lines. -/
theorem bareLines_append_lineBreak (first second : List Char) :
    bareLines (first ++ '\n' :: second) = bareLines first ++ bareLines second := by
  simp only [bareLines, List.splitOn_append_cons_self, List.map_append]

/-- Indentation at the start of a text is not part of its bare lines. -/
theorem bareLines_indented
    {indentation : List Char}
    (blank : ∀ character ∈ indentation, isIndentation character)
    (text : List Char) :
    bareLines (indentation ++ text) = bareLines text := by
  have unbroken : '\n' ∉ indentation := by
    intro member
    exact absurd (blank _ member) (by decide)
  have firstLine (line : List Char) (oneLine : '\n' ∉ line) :
      bareLines (indentation ++ line) = bareLines line := by
    rw [bareLines_of_line oneLine, bareLines_of_line (by simp [unbroken, oneLine]),
      bareLine_indented blank]
  by_cases broken : '\n' ∈ text
  · obtain ⟨line, rest, rfl, oneLine⟩ := List.eq_append_cons_of_mem broken
    rw [← List.append_assoc, bareLines_append_lineBreak, firstLine line oneLine,
      bareLines_append_lineBreak]
  · exact firstLine text broken

/-- Commas and semicolons at the end of a text are not part of its bare lines. -/
theorem bareLines_terminated
    {ending : List Char}
    (terminates : ∀ character ∈ ending, isTerminator character)
    (text : List Char) :
    bareLines (text ++ ending) = bareLines text := by
  by_cases broken : '\n' ∈ text
  · obtain ⟨line, rest, rfl, -⟩ := List.eq_append_cons_of_mem broken
    have later := bareLines_terminated terminates rest
    rw [List.append_assoc, List.cons_append, bareLines_append_lineBreak, later,
      bareLines_append_lineBreak]
  · have unbroken : '\n' ∉ ending := by
      intro member
      exact absurd (terminates _ member) (by decide)
    rw [bareLines_of_line broken, bareLines_of_line (by simp [unbroken, broken]),
      bareLine_terminated terminates]
termination_by text.length

/-! ## Places in a line -/

/-- Where in its line the next mark of a layout stands. -/
inductive LinePlace
  /-- At the start of the line. -/
  | start
  /-- Behind the start, where more text may follow. -/
  | middle
  /-- Behind the end of a statement or of a last entry, where only a break may follow. -/
  | ended
  deriving DecidableEq, Repr

/-- The place behind a mark, if the mark may stand where it stands.  Indentation has to be at the
start of a line. -/
def Mark.place? : LinePlace -> Mark -> Option LinePlace
  | _, lineBreak | _, separator => some .start
  | .ended, _ => none
  | _, text _ | _, literal _ => some .middle
  | _, statementEnd | _, lastEntryEnd => some .ended
  | .start, indent _ => some .middle
  | .middle, indent _ => none

/-- The place behind a list of marks, if all of them may stand where they stand. -/
def placeAfter? (place : LinePlace) (marks : List Mark) : Option LinePlace :=
  marks.foldlM Mark.place? place

/-- The style with the given quote that indents nothing and ends nothing. -/
def Style.plain (quote : Char) : Style where
  indent := ""
  quote := quote
  semicolons := false
  trailingCommas := false

/-- Lines are indented by spaces or tabs. -/
def Style.IsBlank (style : Style) : Prop :=
  ∀ character ∈ style.indent.toList, isIndentation character

/-- What a mark writes where it may stand: a break, fixed text, indentation at the start of a line,
or an ending. -/
theorem Mark.chars_of_place?
    {style : Style}
    (blank : style.IsBlank)
    {place next : LinePlace}
    {mark : Mark}
    (step : mark.place? place = some next) :
    (next = .start ∧ mark.chars style = ['\n'] ∧ mark.chars (.plain style.quote) = ['\n']) ∨
      (next = .middle ∧ place ≠ .ended ∧ mark.chars style = mark.chars (.plain style.quote)) ∨
      (next = .middle ∧ place = .start ∧ mark.chars (.plain style.quote) = [] ∧
        ∀ character ∈ mark.chars style, isIndentation character) ∨
      (next = .ended ∧ place ≠ .ended ∧ mark.chars (.plain style.quote) = [] ∧
        ∀ character ∈ mark.chars style, isTerminator character) := by
  cases mark with
  | lineBreak | separator =>
      cases place <;> cases step <;> exact .inl ⟨rfl, rfl, rfl⟩
  | text content | literal content =>
      cases place <;> cases step <;> exact .inr (.inl ⟨rfl, by decide, rfl⟩)
  | indent depth =>
      cases place <;> cases step
      refine .inr (.inr (.inl ⟨rfl, rfl, ?_, ?_⟩))
      · simp [chars, Style.indentation, Style.plain]
      · intro character member
        simp only [chars, Style.indentation, List.mem_flatten, List.mem_replicate] at member
        obtain ⟨_, ⟨-, rfl⟩, member⟩ := member
        exact blank character member
  | statementEnd =>
      cases place <;> cases step <;> refine .inr (.inr (.inr ⟨rfl, by decide, rfl, ?_⟩)) <;>
        cases semicolons : style.semicolons <;> simp [chars, semicolons, isTerminator]
  | lastEntryEnd =>
      cases place <;> cases step <;> refine .inr (.inr (.inr ⟨rfl, by decide, rfl, ?_⟩)) <;>
        cases commas : style.trailingCommas <;> simp [chars, commas, isTerminator]

/-- A text ends at the start of a line. -/
def EndsAtStart (text : List Char) : Prop :=
  text = [] ∨ ∃ earlier, text = earlier ++ ['\n']

/-- Indentation at the start of a line is not part of the bare lines. -/
theorem bareLines_append_indented
    {before indentation : List Char}
    (atStart : EndsAtStart before)
    (blank : ∀ character ∈ indentation, isIndentation character)
    (text : List Char) :
    bareLines (before ++ (indentation ++ text)) = bareLines (before ++ text) := by
  rcases atStart with rfl | ⟨earlier, rfl⟩
  · exact bareLines_indented blank text
  · simp only [List.append_assoc, List.singleton_append]
    rw [bareLines_append_lineBreak, bareLines_indented blank, bareLines_append_lineBreak]

/-- Behind any text, marks that may stand where they stand give the same bare lines as in plain
style.  The text may end with commas and semicolons of its own if only a break may follow. -/
theorem bareLines_marks
    {style : Style}
    (blank : style.IsBlank)
    {marks : List Mark}
    {place after : LinePlace}
    (laid : placeAfter? place marks = some after)
    (before ending : List Char)
    (atStart : place = .start → EndsAtStart before)
    (unended : place ≠ .ended → ending = [])
    (terminates : ∀ character ∈ ending, isTerminator character) :
    bareLines (before ++ (ending ++ marks.flatMap (Mark.chars style))) =
      bareLines (before ++ marks.flatMap (Mark.chars (.plain style.quote))) := by
  -- Both styles have written `before` alike; `ending` is what only this style has added to it.
  induction marks generalizing place before ending with
  | nil =>
      simp only [List.flatMap_nil, List.append_nil]
      exact bareLines_terminated terminates before
  | cons mark rest inductionHypothesis =>
      rw [placeAfter?, List.foldlM_cons] at laid
      obtain ⟨next, step, laid⟩ := Option.bind_eq_some_iff.mp laid
      rw [List.flatMap_cons, List.flatMap_cons]
      rcases Mark.chars_of_place? blank step with
        ⟨rfl, broken, plain⟩ | ⟨rfl, goesOn, same⟩ | ⟨rfl, starts, plain, indents⟩ |
          ⟨rfl, goesOn, plain, ends⟩
      · have later := inductionHypothesis laid (before ++ ['\n']) [] (fun _ => .inr ⟨before, rfl⟩)
          (fun _ => rfl) (by simp)
        simp only [List.append_assoc, List.singleton_append, List.nil_append] at later
        rw [broken, plain, List.singleton_append, List.singleton_append, ← later,
          ← List.append_assoc, bareLines_append_lineBreak, bareLines_terminated terminates,
          bareLines_append_lineBreak]
      · have later := inductionHypothesis laid (before ++ mark.chars (.plain style.quote)) []
          (by simp) (fun _ => rfl) (by simp)
        rw [unended goesOn, same]
        simpa only [List.append_assoc, List.nil_append] using later
      · have later := inductionHypothesis laid before [] (by simp) (fun _ => rfl) (by simp)
        rw [unended (by simp [starts]), plain, List.nil_append, List.nil_append,
          bareLines_append_indented (atStart starts) indents]
        exact later
      · have later := inductionHypothesis laid before (mark.chars style) (by simp) (by simp) ends
        rw [unended goesOn, plain]
        exact later

/-! ## Layouts -/

theorem placeAfter?_append
    (place : LinePlace)
    (first second : List Mark) :
    placeAfter? place (first ++ second) =
      (placeAfter? place first).bind fun next => placeAfter? next second :=
  List.foldlM_append

theorem placeAfter?_cons
    (place : LinePlace)
    (mark : Mark)
    (rest : List Mark) :
    placeAfter? place (mark :: rest) =
      (mark.place? place).bind fun next => placeAfter? next rest :=
  List.foldlM_cons

theorem placeAfter?_nil (place : LinePlace) : placeAfter? place [] = some place := rfl

theorem placeAfter?_flatMap
    {α : Type}
    {place : LinePlace}
    {marks : α -> List Mark}
    {items : List α}
    (stays : ∀ item ∈ items, placeAfter? place (marks item) = some place) :
    placeAfter? place (items.flatMap marks) = some place := by
  induction items with
  | nil => rfl
  | cons item rest inductionHypothesis =>
      rw [List.forall_mem_cons] at stays
      rw [List.flatMap_cons, placeAfter?_append, stays.1]
      exact inductionHypothesis stays.2

theorem Mark.place?_text
    {place : LinePlace}
    (goesOn : place ≠ .ended)
    (content : String) :
    (text content).place? place = some .middle := by
  cases place with
  | start | middle => rfl
  | ended => contradiction

theorem joinedLines_laid (lines : List String) :
    ∃ after, placeAfter? .start (Mark.joinedLines lines) = some after := by
  fun_induction Mark.joinedLines lines with
  | case1 => exact ⟨.start, rfl⟩
  | case2 line => exact ⟨.middle, rfl⟩
  | case3 line rest _ inductionHypothesis => exact inductionHypothesis

theorem blockLines_laid
    {depth : Nat}
    {entries : List (List Mark)}
    (laid : ∀ entry ∈ entries, placeAfter? .middle entry = some .middle) :
    placeAfter? .start (Mark.blockLines depth entries) = some .start := by
  fun_induction Mark.blockLines depth entries with
  | case1 => rfl
  | case2 entry =>
      have entryLaid := laid entry List.mem_cons_self
      simp [placeAfter?_cons, placeAfter?_append, placeAfter?_nil, Mark.place?, entryLaid]
  | case3 entry rest _ inductionHypothesis =>
      rw [List.forall_mem_cons] at laid
      simp [placeAfter?_cons, placeAfter?_append, Mark.place?, laid.1, inductionHypothesis laid.2]

/-- A block goes on behind its closing brace. -/
theorem block_laid
    {depth : Nat}
    {entries : List (List Mark)}
    (laid : ∀ entry ∈ entries, placeAfter? .middle entry = some .middle) :
    placeAfter? .middle (Mark.block depth entries) = some .middle := by
  rw [Mark.block]
  split_ifs
  · rfl
  · simp [placeAfter?_cons, placeAfter?_append, placeAfter?_nil, Mark.place?, blockLines_laid laid]

theorem Property.marks_laid
    (depth : Nat)
    (property : Property) :
    placeAfter? .middle (property.marks depth) = some .middle := by
  have docs : placeAfter? .middle
      (property.docs.flatMap fun line => [.text line, .lineBreak, .indent depth]) =
        some .middle :=
    placeAfter?_flatMap fun _ _ => rfl
  rw [marks, placeAfter?_append, docs]
  rfl

theorem propertyBlock_laid
    (depth : Nat)
    (properties : List Property) :
    placeAfter? .middle (propertyBlock depth properties) = some .middle := by
  refine block_laid ?_
  intro entry member
  obtain ⟨property, -, rfl⟩ := List.mem_map.mp member
  exact property.marks_laid (depth + 1)

theorem verbatimRest_laid
    (depth : Nat)
    (lines : List (Nat × String))
    {place : LinePlace}
    (goesOn : place ≠ .ended) :
    ∃ after, placeAfter? place (verbatimRest depth lines) = some after ∧ after ≠ .ended := by
  induction lines generalizing place with
  | nil => exact ⟨place, rfl, goesOn⟩
  | cons line rest inductionHypothesis =>
      rw [verbatimRest, List.cons_append, placeAfter?_cons, Mark.place?, Option.bind_some,
        placeAfter?_append]
      split_ifs
      · exact inductionHypothesis (by simp)
      · exact inductionHypothesis (by simp)

/-- An expression may be followed by more text. -/
theorem Expression.marks_laid
    (depth : Nat)
    (expression : Expression) :
    ∃ after, placeAfter? .middle (expression.marks depth) = some after ∧ after ≠ .ended := by
  induction expression with
  | validator value => exact ⟨.middle, rfl, by simp⟩
  | object properties | extend base properties =>
      refine ⟨.middle, ?_, by simp⟩
      simp [marks, placeAfter?_cons, placeAfter?_append, placeAfter?_nil, Mark.place?,
        propertyBlock_laid]
  | lazy inner inductionHypothesis =>
      obtain ⟨after, laid, goesOn⟩ := inductionHypothesis
      refine ⟨.middle, ?_, by simp⟩
      rw [marks, List.cons_append, placeAfter?_cons, Mark.place?_text (by simp), Option.bind_some,
        placeAfter?_append, laid, Option.bind_some, placeAfter?_cons, Mark.place?_text goesOn]
      rfl
  | constObject entries =>
      have block : placeAfter? .middle (Mark.block depth (entries.map constEntry)) =
          some .middle := by
        refine block_laid ?_
        intro entry member
        obtain ⟨_, -, rfl⟩ := List.mem_map.mp member
        rfl
      refine ⟨.middle, ?_, by simp⟩
      rw [marks, placeAfter?_append, block]
      rfl
  | verbatim lines =>
      rw [marks]
      cases lines with
      | nil => exact ⟨.middle, rfl, by simp⟩
      | cons line rest => exact verbatimRest_laid depth rest (by simp)

theorem Constant.marks_laid (declaration : Constant) :
    placeAfter? .start declaration.marks = some .ended := by
  have docs : placeAfter? .start (declaration.docs.flatMap Mark.wholeLine) = some .start :=
    placeAfter?_flatMap fun _ _ => rfl
  obtain ⟨after, value, goesOn⟩ := declaration.value.marks_laid 0
  rw [marks, placeAfter?_append, placeAfter?_append, docs, Option.bind_some, placeAfter?_cons,
    Mark.place?_text (by simp), Option.bind_some, value]
  cases after with
  | start | middle => rfl
  | ended => contradiction

theorem Interface.marks_laid (declaration : Interface) :
    placeAfter? .start declaration.marks = some .middle := by
  have members : placeAfter? .start (declaration.members.flatMap Member.marks) = some .start :=
    placeAfter?_flatMap fun _ _ => rfl
  rw [marks]
  split_ifs
  · rfl
  · simp [placeAfter?_cons, placeAfter?_append, placeAfter?_nil, Mark.place?, members]

/-- A statement starts a line. -/
theorem Statement.marks_laid (statement : Statement) :
    ∃ after, placeAfter? .start statement.marks = some after := by
  cases statement with
  | lineComment lines | blockComment lines => exact joinedLines_laid _
  | typeAlias exported name type => exact ⟨.ended, rfl⟩
  | constant declaration => exact ⟨.ended, declaration.marks_laid⟩
  | interface declaration => exact ⟨.middle, declaration.marks_laid⟩
  | exportAll source => exact ⟨.ended, rfl⟩

theorem statementMarks_laid (statements : List Statement) :
    placeAfter? .start (statementMarks statements) = some .start := by
  fun_induction statementMarks statements with
  | case1 => rfl
  | case2 statement =>
      obtain ⟨after, laid⟩ := statement.marks_laid
      rw [placeAfter?_append, laid]
      rfl
  | case3 statement next rest inductionHypothesis =>
      obtain ⟨after, laid⟩ := statement.marks_laid
      have separated : placeAfter? .start
          (if statement.isSeparatedFrom next then [.separator] else []) = some .start := by
        split_ifs <;> rfl
      rw [placeAfter?_append, placeAfter?_append, laid, Option.bind_some, placeAfter?_cons,
        Mark.place?, Option.bind_some, separated]
      exact inductionHypothesis

/-- All marks of a module may stand where they stand. -/
theorem Module.marks_laid (unit : Module) :
    placeAfter? .start unit.marks = some .start := by
  have imports : placeAfter? .start (importMarks unit.imports) = some .start :=
    placeAfter?_flatMap fun _ _ => rfl
  have separated : placeAfter? .start
      (if unit.imports.isEmpty || unit.statements.isEmpty then [] else [.separator]) =
        some .start := by
    split_ifs <;> rfl
  rw [marks, placeAfter?_append, placeAfter?_append, imports, Option.bind_some, separated]
  exact statementMarks_laid unit.statements

/-- Indentation and endings apart, a module has the lines that it has in plain style. -/
theorem Module.bareLines_chars
    {style : Style}
    (blank : style.IsBlank)
    (unit : Module) :
    bareLines (unit.chars style) = bareLines (unit.chars (.plain style.quote)) := by
  have same := bareLines_marks blank unit.marks_laid [] [] (fun _ => .inl rfl) (fun _ => rfl)
    (by simp)
  exact same

end Code

/-! ## Runs -/

/-- Two configurations differ in formatting options at most. -/
def Configuration.FormattedApart (first second : Configuration) : Prop :=
  second =
    { first with
      indentSize := second.indentSize
      indentKind := second.indentKind
      singleQuote := second.singleQuote
      semicolons := second.semicolons
      trailingCommas := second.trailingCommas }

/-- No function of a run reads a formatting option. -/
theorem Generation.run_formatted
    {first second : Configuration}
    (apart : first.FormattedApart second)
    (layout : FileLayout)
    (model : DataModel) :
    run first layout model = run second layout model := by
  rw [apart]
  rfl

namespace Code

/-- Every configuration asks for lines that are indented by spaces or tabs. -/
theorem Style.ofConfiguration_isBlank (configuration : Configuration) :
    (ofConfiguration configuration).IsBlank := by
  intro character member
  cases kind : configuration.indentKind with
  | tab =>
      have tab : character = '\t' := by simpa [ofConfiguration, kind] using member
      rw [tab]
      decide
  | space =>
      have space : character = ' ' := by simp_all [ofConfiguration]
      rw [space]
      decide

/-- The lines of a text, which end at line feeds. -/
def textLines (text : String) : List (List Char) :=
  text.toList.splitOn '\n'

/-- Formatting options do not change what a run yields.  In the text of a module, styles with one
quote that indent by spaces or tabs give equally many lines, and lines at the same place are equal
apart from indentation and from commas and semicolons at their end. -/
theorem formatting_keeps_content :
    (∀ (first second : Configuration) (layout : FileLayout) (model : DataModel),
      first.FormattedApart second →
        Generation.run first layout model = Generation.run second layout model) ∧
    ∀ (unit : Module) (first second : Style),
      first.quote = second.quote → first.IsBlank → second.IsBlank →
        List.Forall₂ (fun line other => bareLine line = bareLine other)
          (textLines (unit.text first)) (textLines (unit.text second)) := by
  refine ⟨?_, ?_⟩
  · intro first second layout model apart
    exact Generation.run_formatted apart layout model
  · intro unit first second sameQuote firstBlank secondBlank
    have same : bareLines (unit.chars first) = bareLines (unit.chars second) := by
      rw [unit.bareLines_chars firstBlank, unit.bareLines_chars secondBlank, sameQuote]
    rw [← List.forall₂_eq_eq_eq] at same
    rw [bareLines, bareLines, List.forall₂_map_left_iff, List.forall₂_map_right_iff] at same
    simpa only [textLines, Module.text, String.toList_ofList] using same

/-- A configuration that changes every formatting option. -/
def compactConfiguration : Configuration :=
  { indentSize := 4
    indentKind := .tab
    singleQuote := true
    semicolons := .remove
    trailingCommas := false }

/-- A module with comments, a lazy schema, a block of constants and verbatim lines. -/
def inventory : Module where
  fileName := "Item"
  imports := [{ source := "zod", binding := .named ["z"] }]
  statements :=
    [ .lineComment ["Helper schema"],
      .constant
        { exported := false
          name := "count"
          value := .verbatim [(0, "z"), (1, ".int()"), (0, "")] },
      .constant
        { exported := true
          name := "ItemModel"
          docs := ["/**", " * An item", " */"]
          value :=
            .lazy (.extend "BaseModel"
              [ { docs := ["/** How many */"], name := "count", value := { base := "count" } },
                { name := "owner"
                  value := { base := "z.string()", modifiers := ["nullish()"] } } ]) },
      .interface
        { name := "Item", bases := ["Base"]
          members := [{ name := "owner", optional := true, type := "string | null" }] },
      .constant
        { exported := true
          name := "Size"
          value := .constObject [("SMALL", "s"), ("LARGE", "l")] } ]

/-- A data model with an entity that compiles and one that does not. -/
def stock : DataModel where
  entities :=
    [ { name := "Item"
        fields :=
          [ { name := "count", kind := .scalar .int },
            { name := "owner", kind := .scalar .string, isRequired := false } ] },
      { name := "Order", fields := [{ name := "status", kind := .enumeration "Status" }] } ]

theorem formatting_keeps_content_inventory :
    (Configuration.FormattedApart {} compactConfiguration ∧
      Generation.run {} ⟨"/shop/schema", "/shop/zod", "/shop/client"⟩ stock =
        Generation.run compactConfiguration ⟨"/shop/schema", "/shop/zod", "/shop/client"⟩ stock) ∧
    Style.standard.quote =
      (Style.ofConfiguration { compactConfiguration with singleQuote := false }).quote ∧
    List.Forall₂ (fun line other => bareLine line = bareLine other)
      (textLines (inventory.text .standard))
      (textLines (inventory.text
        (.ofConfiguration { compactConfiguration with singleQuote := false }))) := by
  obtain ⟨runs, texts⟩ := formatting_keeps_content
  refine ⟨⟨rfl, runs _ _ _ _ rfl⟩, rfl, texts _ _ _ rfl ?_ ?_⟩
  · exact Style.ofConfiguration_isBlank _
  · exact Style.ofConfiguration_isBlank _

end Code
end EntitySchema
