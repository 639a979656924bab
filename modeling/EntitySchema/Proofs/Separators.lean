import EntitySchema.Proofs.FilledLines

/-!
# Separators of a module

A module whose texts stay on their lines has an empty line below its imports, where statements
follow, and one between two adjacent statements that stand apart.  It has no other, so that none is
its first line, none its last, and no two follow each other.
-/

namespace EntitySchema
namespace Code

/-! ## Statements one below the other -/

/-- What stands between two adjacent statements besides the break after the first. -/
def separatorMarks (first second : Statement) : List Mark :=
  if first.isSeparatedFrom second then [.separator] else []

variable
  {style : Style}
  {before : List Char}
  {statements : List Statement}

theorem charsOf_append (first second : List Mark) :
    charsOf style (first ++ second) = charsOf style first ++ charsOf style second :=
  List.flatMap_append

theorem charsOf_lineBreak (marks : List Mark) :
    charsOf style (.lineBreak :: marks) = '\n' :: charsOf style marks := rfl

theorem charsOf_separatorMarks (first second : Statement) :
    charsOf style (separatorMarks first second) =
      if first.isSeparatedFrom second then ['\n'] else [] := by
  rw [separatorMarks]
  split_ifs <;> rfl

theorem charsOf_statementMarks_singleton (statement : Statement) :
    charsOf style (statementMarks [statement]) = charsOf style statement.marks ++ ['\n'] := by
  rw [statementMarks, charsOf_append]
  rfl

theorem charsOf_statementMarks_cons (statement next : Statement) (rest : List Statement) :
    charsOf style (statementMarks (statement :: next :: rest)) =
      charsOf style statement.marks ++ '\n' ::
        (charsOf style (separatorMarks statement next) ++
          charsOf style (statementMarks (next :: rest))) := by
  rw [statementMarks, ← separatorMarks, List.append_assoc, charsOf_append, List.cons_append,
    charsOf_lineBreak, charsOf_append]

/-- Statements cut off behind one of them start as they do when they are not cut off. -/
theorem charsOf_statementMarks_cut
    {next : Statement}
    {rest earlier later : List Statement}
    {last : Statement}
    (split : next :: rest = earlier ++ last :: later)
    (statement : Statement) :
    charsOf style (statementMarks (statement :: (earlier ++ [last]))) =
      charsOf style statement.marks ++ '\n' ::
        (charsOf style (separatorMarks statement next) ++
          charsOf style (statementMarks (earlier ++ [last]))) := by
  cases earlier with
  | nil =>
      obtain ⟨rfl, -⟩ := List.cons.inj split
      exact charsOf_statementMarks_cons statement next []
  | cons first more =>
      obtain ⟨rfl, -⟩ := List.cons.inj split
      exact charsOf_statementMarks_cons statement next (more ++ [last])

/-- Two adjacent statements are the first two, or they are further down. -/
theorem exists_adjacent_cons_iff
    {statement next : Statement}
    {rest : List Statement}
    {accepts : List Statement -> Statement -> Statement -> Prop} :
    (∃ earlier first second later,
        statement :: next :: rest = earlier ++ first :: second :: later ∧
          accepts earlier first second) ↔
      accepts [] statement next ∨
        ∃ earlier first second later,
          next :: rest = earlier ++ first :: second :: later ∧
            accepts (statement :: earlier) first second := by
  constructor
  · rintro ⟨_ | ⟨head, earlier⟩, first, second, later, split, accepted⟩
    · cases split
      exact .inl accepted
    · rw [List.cons_append, List.cons.injEq] at split
      obtain ⟨rfl, split⟩ := split
      exact .inr ⟨earlier, first, second, later, split, accepted⟩
  · rintro (accepted | ⟨earlier, first, second, later, split, accepted⟩)
    · exact ⟨[], statement, next, rest, rfl, accepted⟩
    · refine ⟨statement :: earlier, first, second, later, ?_, accepted⟩
      rw [split, List.cons_append]

/-- The empty lines among statements are those between two adjacent ones that stand apart. -/
theorem emptyLineAfter_statements_iff
    (keeps : style.KeepsLines)
    (keepLines : ∀ statement ∈ statements, statement.KeepsLines) :
    EmptyLineAfter before (charsOf style (statementMarks statements)) ↔
      ∃ earlier first second later,
        statements = earlier ++ first :: second :: later ∧
          first.isSeparatedFrom second = true ∧
            before = charsOf style (statementMarks (earlier ++ [first])) := by
  induction statements generalizing before with
  | nil =>
      refine iff_of_false (isWritten_nil before) ?_
      rintro ⟨earlier, first, second, later, split, -⟩
      simp at split
  | cons statement rest inductionHypothesis =>
      rw [List.forall_mem_cons] at keepLines
      have block : IsBlock (charsOf style statement.marks) := keepLines.1.fills.isBlock keeps
      cases rest with
      | nil =>
          rw [charsOf_statementMarks_singleton]
          refine iff_of_false (block before) ?_
          rintro ⟨earlier, first, second, later, split, -⟩
          have lengths := congrArg List.length split
          simp at lengths
          omega
      | cons next rest =>
          rw [exists_adjacent_cons_iff, charsOf_statementMarks_cons, block.emptyLineAfter_iff]
          -- Below the first statement there is the separator, if it stands apart, and what is empty
          -- among the statements that follow.
          have below (later : List Char) :
              EmptyLineAfter later (charsOf style (separatorMarks statement next) ++
                  charsOf style (statementMarks (next :: rest))) ↔
                statement.isSeparatedFrom next = true ∧ later = [] ∨
                  ∃ deeper,
                    later = charsOf style (separatorMarks statement next) ++ deeper ∧
                      EmptyLineAfter deeper (charsOf style (statementMarks (next :: rest))) := by
            rw [charsOf_separatorMarks]
            split_ifs with apart
            · rw [List.singleton_append, emptyLineAfter_lineFeed_iff]
              simp [apart]
            · simp [apart]
          constructor
          · rintro ⟨later, rfl, empty⟩
            rcases (below later).mp empty with ⟨apart, rfl⟩ | ⟨deeper, rfl, deep⟩
            · exact .inl ⟨apart, (charsOf_statementMarks_singleton statement).symm⟩
            · obtain ⟨earlier, first, second, later, split, apart, rfl⟩ :=
                (inductionHypothesis keepLines.2).mp deep
              refine .inr ⟨earlier, first, second, later, split, apart, ?_⟩
              exact (charsOf_statementMarks_cut split statement).symm
          · rintro (⟨apart, rfl⟩ | ⟨earlier, first, second, later, split, apart, rfl⟩)
            · exact ⟨[], charsOf_statementMarks_singleton statement,
                (below []).mpr (.inl ⟨apart, rfl⟩)⟩
            · refine ⟨_, charsOf_statementMarks_cut split statement,
                (below _).mpr (.inr ⟨_, rfl, ?_⟩)⟩
              exact (inductionHypothesis keepLines.2).mpr
                ⟨earlier, first, second, later, split, apart, rfl⟩

/-! ## Modules -/

/-- The text of a module up to one of its separators: the module cut off behind its imports, where
statements follow, or behind a statement that stands apart from the next one. -/
inductive Module.SeparatorAfter (style : Style) (unit : Module) : List Char -> Prop
  | imports
      (imported : unit.imports ≠ [])
      (followed : unit.statements ≠ []) :
      SeparatorAfter style unit ({ unit with statements := [] }.chars style)
  | statements
      {earlier later : List Statement}
      {first second : Statement}
      (split : unit.statements = earlier ++ first :: second :: later)
      (apart : first.isSeparatedFrom second = true) :
      SeparatorAfter style unit ({ unit with statements := earlier ++ [first] }.chars style)

variable
  {unit : Module}

/-- A module with nothing to import is its statements. -/
theorem Module.chars_of_no_imports
    (none : unit.imports = []) :
    unit.chars style = charsOf style (statementMarks unit.statements) := by
  simp [chars, marks, none, importMarks, charsOf]

theorem Module.chars_of_no_statements
    (none : unit.statements = []) :
    unit.chars style = charsOf style (importMarks unit.imports) := by
  simp [chars, marks, none, statementMarks, charsOf]

theorem Module.chars_of_both
    (imported : unit.imports ≠ [])
    (followed : unit.statements ≠ []) :
    unit.chars style =
      charsOf style (importMarks unit.imports) ++
        '\n' :: charsOf style (statementMarks unit.statements) := by
  simp [chars, marks, imported, followed, charsOf, Mark.chars]

theorem importMarks_fills
    {imports : List Import}
    (keepLines : ∀ declaration ∈ imports, declaration.KeepsLines) :
    Fills false (importMarks imports) false :=
  fills_flatMap fun declaration member =>
    (keepLines declaration member).fills.append (.cons rfl fills_nil)

/-- Imports end with the break after the last of them. -/
theorem importMarks_concat (imports : List Import) (declaration : Import) :
    importMarks (imports ++ [declaration]) =
      importMarks imports ++ declaration.marks ++ [.lineBreak] := by
  simp [importMarks]

/-- Statements end with the break after the last of them. -/
theorem exists_statementMarks_concat (statements : List Statement) (last : Statement) :
    ∃ front, statementMarks (statements ++ [last]) = front ++ last.marks ++ [.lineBreak] := by
  induction statements with
  | nil => exact ⟨[], rfl⟩
  | cons statement rest inductionHypothesis =>
      obtain ⟨front, ends⟩ := inductionHypothesis
      cases rest with
      | nil =>
          refine ⟨statement.marks ++ .lineBreak :: separatorMarks statement last, ?_⟩
          simp [statementMarks, separatorMarks]
      | cons next more =>
          refine ⟨statement.marks ++ .lineBreak :: separatorMarks statement next ++ front, ?_⟩
          rw [List.cons_append, List.cons_append, statementMarks, ← List.cons_append, ends]
          simp [separatorMarks]

/-- A module that has anything ends with marks that fill their lines and a break. -/
theorem Module.KeepsLines.exists_marks_eq
    (keepLines : unit.KeepsLines)
    (something : ¬ (unit.imports = [] ∧ unit.statements = [])) :
    ∃ front last, unit.marks = front ++ last ++ [.lineBreak] ∧ Fills false last true := by
  rcases unit.statements.eq_nil_or_concat' with none | ⟨statements, last, written⟩
  · rcases unit.imports.eq_nil_or_concat' with noImports | ⟨imports, last, imported⟩
    · exact absurd ⟨noImports, none⟩ something
    · have member : last ∈ unit.imports := by simp [imported]
      refine ⟨importMarks imports, last.marks, ?_, (keepLines.imports last member).fills⟩
      simp [marks, none, imported, importMarks_concat, statementMarks]
  · have member : last ∈ unit.statements := by simp [written]
    obtain ⟨front, ends⟩ := exists_statementMarks_concat statements last
    refine ⟨importMarks unit.imports ++
        (if unit.imports.isEmpty || unit.statements.isEmpty then [] else [.separator]) ++ front,
      last.marks, ?_, (keepLines.statements last member).fills⟩
    rw [← written] at ends
    rw [marks, ends]
    simp only [List.append_assoc]

/-- A module that has anything ends with exactly one line feed. -/
theorem Module.KeepsLines.exists_chars_eq
    (keeps : style.KeepsLines)
    (keepLines : unit.KeepsLines)
    (something : ¬ (unit.imports = [] ∧ unit.statements = [])) :
    ∃ body, unit.chars style = body ++ ['\n'] ∧ ¬ EndsAtStart body := by
  obtain ⟨front, last, ends, fills⟩ := keepLines.exists_marks_eq something
  have block : IsBlock (charsOf style last) := fills.isBlock keeps
  have nonempty : charsOf style last ≠ [] := fun empty => block.not_endsAtStart (.inl empty)
  refine ⟨charsOf style front ++ charsOf style last, ?_, ?_⟩
  · rw [chars, ends, ← charsOf, charsOf_append, charsOf_append]
    rfl
  · rw [endsAtStart_append_iff nonempty]
    exact block.not_endsAtStart

theorem endsAtStart_importMarks (imports : List Import) :
    EndsAtStart (charsOf style (importMarks imports)) := by
  rcases imports.eq_nil_or_concat' with rfl | ⟨front, last, rfl⟩
  · exact .inl rfl
  · rw [importMarks_concat, charsOf_append]
    exact .inr ⟨_, rfl⟩

/-- The empty lines of a module are its separators. -/
theorem Module.KeepsLines.emptyLineAfter_iff
    (keeps : style.KeepsLines)
    (keepLines : unit.KeepsLines) :
    EmptyLineAfter before (unit.chars style) ↔ unit.SeparatorAfter style before := by
  have dense : IsDense (charsOf style (importMarks unit.imports)) :=
    isWritten_nil.marks keeps (importMarks_fills keepLines.imports)
  rcases eq_or_ne unit.imports [] with noImports | imported
  · have cut (statements : List Statement) :
        { unit with statements }.chars style = charsOf style (statementMarks statements) :=
      chars_of_no_imports noImports
    rw [chars_of_no_imports noImports, emptyLineAfter_statements_iff keeps keepLines.statements]
    constructor
    · rintro ⟨earlier, first, second, later, split, apart, rfl⟩
      rw [← cut]
      exact .statements split apart
    · rintro (⟨imported, -⟩ | ⟨split, apart⟩)
      · exact absurd noImports imported
      · exact ⟨_, _, _, _, split, apart, cut _⟩
  · rcases eq_or_ne unit.statements [] with noStatements | followed
    · rw [chars_of_no_statements noStatements]
      refine iff_of_false (dense before) ?_
      rintro (⟨-, followed⟩ | ⟨split, -⟩)
      · exact followed noStatements
      · simp [noStatements] at split
    · have top : { unit with statements := [] }.chars style =
          charsOf style (importMarks unit.imports) ++ [] := by
        rw [chars_of_no_statements rfl, List.append_nil]
      have cut {statements : List Statement} (nonempty : statements ≠ []) :
          { unit with statements }.chars style =
            charsOf style (importMarks unit.imports) ++
              '\n' :: charsOf style (statementMarks statements) :=
        chars_of_both imported nonempty
      rw [chars_of_both imported followed,
        emptyLineAfter_append_iff (endsAtStart_importMarks unit.imports),
        or_iff_right (dense before)]
      simp only [emptyLineAfter_lineFeed_iff,
        emptyLineAfter_statements_iff keeps keepLines.statements]
      constructor
      · rintro ⟨later, rfl, rfl | ⟨_, rfl, earlier, first, second, later, split, apart, rfl⟩⟩
        · rw [← top]
          exact .imports imported followed
        · rw [← cut (by simp)]
          exact .statements split apart
      · rintro (⟨-, -⟩ | ⟨split, apart⟩)
        · exact ⟨[], top, .inl rfl⟩
        · exact ⟨_, cut (by simp), .inr ⟨_, rfl, _, _, _, _, split, apart, rfl⟩⟩

/-- Behind a separator's place the text stands at the start of a line, and not behind an empty
one. -/
theorem Module.KeepsLines.exists_before_eq
    (keeps : style.KeepsLines)
    (keepLines : unit.KeepsLines)
    (separator : unit.SeparatorAfter style before) :
    ∃ body, before = body ++ ['\n'] ∧ ¬ EndsAtStart body := by
  cases separator with
  | imports imported followed =>
      have cut : Module.KeepsLines { unit with statements := [] } :=
        ⟨keepLines.imports, by simp⟩
      exact cut.exists_chars_eq keeps (fun nothing => imported nothing.1)
  | @statements earlier later first second split apart =>
      have cut : Module.KeepsLines { unit with statements := earlier ++ [first] } := by
        refine ⟨keepLines.imports, fun statement member => keepLines.statements statement ?_⟩
        rw [split]
        simp only [List.mem_append, List.mem_cons] at member ⊢
        tauto
      exact cut.exists_chars_eq keeps (by simp)

/-- Only a module without anything has an empty text. -/
theorem Module.KeepsLines.chars_eq_nil_iff
    (keeps : style.KeepsLines)
    (keepLines : unit.KeepsLines) :
    unit.chars style = [] ↔ unit.imports = [] ∧ unit.statements = [] := by
  constructor
  · intro empty
    by_contra something
    obtain ⟨body, ends, -⟩ := keepLines.exists_chars_eq keeps something
    simp [empty] at ends
  · rintro ⟨noImports, noStatements⟩
    rw [chars_of_no_imports noImports, noStatements]
    rfl

/-- The first line of a module is not empty. -/
theorem Module.KeepsLines.head?_chars_ne
    (keeps : style.KeepsLines)
    (keepLines : unit.KeepsLines) :
    (unit.chars style).head? ≠ some '\n' := by
  intro starts
  obtain ⟨rest, startsWith⟩ := List.head?_eq_some_iff.mp starts
  have empty : EmptyLineAfter [] (unit.chars style) := by
    refine ⟨.inl rfl, ?_⟩
    rw [startsWith]
    exact List.prefix_append _ _
  obtain ⟨body, ends, -⟩ :=
    keepLines.exists_before_eq keeps ((keepLines.emptyLineAfter_iff keeps).mp empty)
  simp at ends

/-- No empty line of a module follows another one. -/
theorem Module.KeepsLines.not_isInfix_chars
    (keeps : style.KeepsLines)
    (keepLines : unit.KeepsLines) :
    ¬ ['\n', '\n', '\n'] <:+: unit.chars style := by
  rintro ⟨front, rest, split⟩
  have second : EmptyLineAfter (front ++ ['\n'] ++ ['\n']) (unit.chars style) := by
    refine ⟨.inr ⟨_, rfl⟩, rest, ?_⟩
    rw [← split]
    simp
  obtain ⟨body, ends, filled⟩ :=
    keepLines.exists_before_eq keeps ((keepLines.emptyLineAfter_iff keeps).mp second)
  obtain ⟨rfl, -⟩ := List.append_inj' ends rfl
  exact filled (.inr ⟨front, rfl⟩)

/-! ## Well spaced text -/

/-- What the lines of a module's text are like. -/
structure Module.IsWellSpaced (style : Style) (unit : Module) : Prop where
  /-- There is a text unless there is nothing to write. -/
  text_eq_empty_iff : unit.text style = "" ↔ unit.imports = [] ∧ unit.statements = []
  /-- The first line is not empty. -/
  starts : (unit.text style).toList.head? ≠ some '\n'
  /-- The last line is ended, and it is not empty. -/
  ends : unit.text style ≠ "" →
    ∃ body, (unit.text style).toList = body ++ ['\n'] ∧ body.getLast? ≠ some '\n'
  /-- No two empty lines follow each other. -/
  single : ¬ ['\n', '\n', '\n'] <:+: (unit.text style).toList
  /-- The empty lines are the separators. -/
  separators : ∀ before,
    EmptyLineAfter before (unit.text style).toList ↔ unit.SeparatorAfter style before

theorem Module.KeepsLines.isWellSpaced
    (keeps : style.KeepsLines)
    (keepLines : unit.KeepsLines) :
    unit.IsWellSpaced style := by
  have chars : (unit.text style).toList = unit.chars style := String.toList_ofList
  have empty : unit.text style = "" ↔ unit.chars style = [] := by
    rw [← chars, String.toList_eq_nil_iff]
  refine ⟨?_, ?_, ?_, ?_, ?_⟩
  · rw [empty, keepLines.chars_eq_nil_iff keeps]
  · rw [chars]
    exact keepLines.head?_chars_ne keeps
  · intro written
    rw [Ne, empty, keepLines.chars_eq_nil_iff keeps] at written
    obtain ⟨body, ends, filled⟩ := keepLines.exists_chars_eq keeps written
    rw [endsAtStart_iff, not_or] at filled
    exact ⟨body, chars.trans ends, filled.2⟩
  · rw [chars]
    exact keepLines.not_isInfix_chars keeps
  · intro before
    rw [chars]
    exact keepLines.emptyLineAfter_iff keeps

end Code
end EntitySchema
