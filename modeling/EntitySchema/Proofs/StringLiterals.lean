import EntitySchema.Code.Printer
import Mathlib.Logic.Function.Basic
import Mathlib.Tactic.SplitIfs

/-!
# Reading string literals

A literal is read from its opening quote to the first quote of the same kind that no backslash
precedes.  Whatever text is written as a literal, and whatever follows it, reading gives the text
back and stops right behind the literal.  So the module paths and the constants of a generated
module are read where they stand, and none of them ends its literal early.
-/

namespace EntitySchema
namespace Code
namespace Literal

/-! ## Reading -/

/-- Read the text of a literal behind its opening quote, and what follows the literal.  A backslash
makes the next character stand for itself; the first other quote of the same kind ends the
literal. -/
def readBody? (quote : Char) : List Char -> Option (List Char × List Char)
  | [] => none
  | '\\' :: escaped :: rest => (readBody? quote rest).map (Prod.map (List.cons escaped) id)
  | character :: rest =>
      if character = quote then some ([], rest)
      else (readBody? quote rest).map (Prod.map (List.cons character) id)

/-- Read a literal that a text starts with, and what follows the literal. -/
def read? (quote : Char) : List Char -> Option (List Char × List Char)
  | [] => none
  | first :: rest => if first = quote then readBody? quote rest else none

/-- A backslash takes the next character with it, even if that is a quote. -/
theorem readBody?_escaped
    (quote escaped : Char)
    (rest : List Char) :
    readBody? quote ('\\' :: escaped :: rest) =
      (readBody? quote rest).map (Prod.map (List.cons escaped) id) :=
  rfl

theorem readBody?_of_ne_backslash
    {character : Char}
    (apart : character ≠ '\\')
    (quote : Char)
    (rest : List Char) :
    readBody? quote (character :: rest) =
      if character = quote then some ([], rest)
      else (readBody? quote rest).map (Prod.map (List.cons character) id) := by
  rw [readBody?.eq_3]
  intro escaped later backslash
  exact absurd backslash apart

/-- Behind its opening quote a literal is read up to its own closing quote. -/
theorem readBody?_body_append
    {quote : Char}
    (apart : quote ≠ '\\')
    (text rest : List Char) :
    readBody? quote (body quote text ++ quote :: rest) = some (text, rest) := by
  induction text with
  | nil =>
      rw [body, List.nil_append, readBody?_of_ne_backslash apart, if_pos rfl]
  | cons character later inductionHypothesis =>
      rw [body]
      split_ifs with escapes
      · rw [List.cons_append, List.cons_append, readBody?_escaped, inductionHypothesis]
        rfl
      · simp only [Bool.or_eq_true, decide_eq_true_eq, not_or] at escapes
        rw [List.cons_append, readBody?_of_ne_backslash escapes.2, if_neg escapes.1,
          inductionHypothesis]
        rfl

/-- A literal is read whole, whatever follows it. -/
theorem read?_write_append
    {quote : Char}
    (apart : quote ≠ '\\')
    (text rest : List Char) :
    read? quote (write quote text ++ rest) = some (text, rest) := by
  have opened : write quote text ++ rest = quote :: (body quote text ++ quote :: rest) := by
    rw [write, List.cons_append, List.cons_append, List.append_assoc, List.singleton_append]
  rw [opened, read?, if_pos rfl, readBody?_body_append apart]

/-! ## Early ends -/

/-- What is read of a text does not depend on what follows the literal. -/
theorem readBody?_append
    {quote : Char}
    (apart : quote ≠ '\\')
    {front text after : List Char}
    (read : readBody? quote front = some (text, after))
    (more : List Char) :
    readBody? quote (front ++ more) = some (text, after ++ more) := by
  fun_induction readBody? quote front generalizing text with
  | case1 => cases read
  | case2 escaped rest inductionHypothesis =>
      obtain ⟨⟨inner, behind⟩, found, shape⟩ := Option.map_eq_some_iff.mp read
      cases shape
      rw [List.cons_append, List.cons_append, readBody?_escaped, inductionHypothesis found]
      rfl
  | case3 rest =>
      cases read
      rw [List.cons_append, readBody?_of_ne_backslash apart, if_pos rfl]
  | case4 character rest unescaped other inductionHypothesis =>
      obtain ⟨⟨inner, behind⟩, found, shape⟩ := Option.map_eq_some_iff.mp read
      cases shape
      -- A backslash comes to this case only at the very end, where nothing is left to read.
      have plain : character ≠ '\\' := by
        rintro rfl
        cases rest with
        | nil => cases found
        | cons escaped later => exact unescaped escaped later rfl rfl
      rw [List.cons_append, readBody?_of_ne_backslash plain, if_neg other,
        inductionHypothesis found]
      rfl

/-- What is read does not depend on the text behind it. -/
theorem read?_append
    {quote : Char}
    (apart : quote ≠ '\\')
    {front text after : List Char}
    (read : read? quote front = some (text, after))
    (more : List Char) :
    read? quote (front ++ more) = some (text, after ++ more) := by
  cases front with
  | nil => cases read
  | cons first rest =>
      rw [read?] at read
      split_ifs at read with opens
      rw [List.cons_append, read?, if_pos opens]
      exact readBody?_append apart read more

/-- No literal is complete before its last character. -/
theorem read?_eq_none_of_write
    {quote : Char}
    (apart : quote ≠ '\\')
    {text front back : List Char}
    (written : write quote text = front ++ back)
    (unfinished : back ≠ []) :
    read? quote front = none := by
  cases found : read? quote front with
  | none => rfl
  | some result =>
      obtain ⟨inner, after⟩ := result
      -- What is read of the start would be read of the whole, with the back left over.
      have early := read?_append apart found back
      have whole := read?_write_append apart text []
      rw [List.append_nil, written, early] at whole
      obtain ⟨-, rest⟩ := Prod.mk.inj (Option.some.inj whole)
      exact absurd (List.append_eq_nil_iff.mp rest).2 unfinished

/-- Different texts have different literals, since each is read back from its own. -/
theorem write_injective
    {quote : Char}
    (apart : quote ≠ '\\') :
    Function.Injective (write quote) := by
  intro first second same
  have read := read?_write_append apart first []
  rw [same, read?_write_append apart second []] at read
  exact (Prod.mk.inj (Option.some.inj read)).1.symm

end Literal

/-! ## Literals of modules -/

/-- The text of a mark that is a literal. -/
@[simp] def Mark.literal? : Mark -> Option String
  | literal content => some content
  | text _ | lineBreak | separator | indent _ | statementEnd | lastEntryEnd => none

/-- The constants that an expression holds as literals. -/
def Expression.literals : Expression -> List String
  | constObject entries => entries.map Prod.snd
  | lazy inner => inner.literals
  | validator _ | object _ | extend _ _ | verbatim _ => []

/-- The constants of a statement, or the path of the module that it re-exports. -/
def Statement.literals : Statement -> List String
  | constant declaration => declaration.value.literals
  | exportAll source => [source]
  | lineComment _ | blockComment _ | typeAlias _ _ _ | interface _ => []

/-- The paths of the imported modules, and the literals of all statements. -/
def Module.literals (unit : Module) : List String :=
  unit.imports.map Import.source ++ unit.statements.flatMap Statement.literals

/-- The texts of the literals among marks. -/
def literalsOf (marks : List Mark) : List String :=
  marks.filterMap Mark.literal?

@[simp] theorem literalsOf_nil : literalsOf [] = [] := rfl

@[simp] theorem literalsOf_cons
    (mark : Mark)
    (rest : List Mark) :
    literalsOf (mark :: rest) = mark.literal?.toList ++ literalsOf rest := by
  cases mark <;> rfl

@[simp] theorem literalsOf_append
    (first second : List Mark) :
    literalsOf (first ++ second) = literalsOf first ++ literalsOf second :=
  List.filterMap_append

@[simp] theorem literalsOf_flatMap
    (items : List α)
    (marks : α -> List Mark) :
    literalsOf (items.flatMap marks) = items.flatMap fun item => literalsOf (marks item) :=
  List.filterMap_flatMap

namespace Mark

@[simp] theorem literalsOf_joinedLines (lines : List String) :
    literalsOf (joinedLines lines) = [] := by
  induction lines with
  | nil => rfl
  | cons line rest inductionHypothesis =>
      cases rest with
      | nil => rfl
      | cons next later => exact inductionHypothesis

@[simp] theorem literalsOf_blockLines
    (depth : Nat)
    (entries : List (List Mark)) :
    literalsOf (blockLines depth entries) = entries.flatMap literalsOf := by
  induction entries with
  | nil => rfl
  | cons entry rest inductionHypothesis =>
      cases rest with
      | nil =>
          have laidOut :
              blockLines depth [entry] = indent depth :: (entry ++ [lastEntryEnd, lineBreak]) :=
            rfl
          simp [laidOut]
      | cons next later =>
          have laidOut :
              blockLines depth (entry :: next :: later) =
                indent depth ::
                  (entry ++ text "," :: lineBreak :: blockLines depth (next :: later)) :=
            rfl
          rw [laidOut, List.flatMap_cons, ← inductionHypothesis]
          simp

/-- A block has the literals of its entries. -/
@[simp] theorem literalsOf_block
    (depth : Nat)
    (entries : List (List Mark)) :
    literalsOf (block depth entries) = entries.flatMap literalsOf := by
  rw [block]
  split_ifs with empty
  · rw [List.isEmpty_iff.mp empty]
    rfl
  · simp

end Mark

@[simp] theorem literalsOf_propertyMarks
    (depth : Nat)
    (property : Property) :
    literalsOf (property.marks depth) = [] := by
  simp [Property.marks]

@[simp] theorem literalsOf_propertyBlock
    (depth : Nat)
    (properties : List Property) :
    literalsOf (propertyBlock depth properties) = [] := by
  simp [propertyBlock, List.flatMap_map]

@[simp] theorem literalsOf_verbatimRest
    (depth : Nat)
    (lines : List (Nat × String)) :
    literalsOf (verbatimRest depth lines) = [] := by
  induction lines with
  | nil => rfl
  | cons line rest inductionHypothesis =>
      rw [verbatimRest]
      split_ifs <;> simp [inductionHypothesis]

/-- An expression writes its literals, in their order, and no others. -/
theorem literalsOf_expressionMarks
    (depth : Nat)
    (expression : Expression) :
    literalsOf (expression.marks depth) = expression.literals := by
  induction expression with
  | validator value => rfl
  | object properties => simp [Expression.marks, Expression.literals]
  | extend base properties => simp [Expression.marks, Expression.literals]
  | lazy inner inductionHypothesis =>
      simp [Expression.marks, Expression.literals, inductionHypothesis]
  | constObject entries =>
      rw [Expression.marks, literalsOf_append, Mark.literalsOf_block, List.flatMap_map,
        Expression.literals, List.map_eq_flatMap]
      exact List.append_nil _
  | verbatim lines =>
      cases lines with
      | nil => rfl
      | cons line rest => simp [Expression.marks, verbatimMarks, Expression.literals]

theorem literalsOf_interfaceMarks (declaration : Interface) :
    literalsOf declaration.marks = [] := by
  rw [Interface.marks]
  split_ifs <;> simp [Member.marks]

theorem literalsOf_statementMarks (statement : Statement) :
    literalsOf statement.marks = statement.literals := by
  cases statement with
  | lineComment lines => simp [Statement.marks, Statement.literals]
  | blockComment lines => simp [Statement.marks, Statement.literals]
  | typeAlias exported name type => rfl
  | constant declaration =>
      simp [Statement.marks, Statement.literals, Constant.marks, Mark.wholeLine,
        literalsOf_expressionMarks]
  | interface declaration => exact literalsOf_interfaceMarks declaration
  | exportAll source => rfl

theorem literalsOf_statements (statements : List Statement) :
    literalsOf (statementMarks statements) = statements.flatMap Statement.literals := by
  induction statements with
  | nil => rfl
  | cons statement rest inductionHypothesis =>
      cases rest with
      | nil =>
          have laidOut : statementMarks [statement] = statement.marks ++ [.lineBreak] := rfl
          simp [laidOut, literalsOf_statementMarks]
      | cons next later =>
          have laidOut :
              statementMarks (statement :: next :: later) =
                statement.marks ++ .lineBreak ::
                  (if statement.isSeparatedFrom next then [.separator] else []) ++
                    statementMarks (next :: later) :=
            rfl
          have space :
              literalsOf (if statement.isSeparatedFrom next then [.separator] else []) = [] := by
            split_ifs <;> rfl
          rw [laidOut, List.flatMap_cons, ← inductionHypothesis]
          simp [literalsOf_statementMarks, space]

theorem literalsOf_imports (imports : List Import) :
    literalsOf (importMarks imports) = imports.map Import.source := by
  rw [importMarks, literalsOf_flatMap, List.map_eq_flatMap]
  rfl

/-- The literals of a module are its module paths and its constants, in the order of the text. -/
theorem Module.literalsOf_marks (unit : Module) : literalsOf unit.marks = unit.literals := by
  have space :
      literalsOf (if unit.imports.isEmpty || unit.statements.isEmpty then [] else [.separator]) =
        [] := by
    split_ifs <;> rfl
  rw [Module.marks, literalsOf_append, literalsOf_append, literalsOf_imports, space,
    literalsOf_statements, List.append_nil, Module.literals]

/-- Every module path and every constant of a module is read where it stands. -/
structure Module.KeepsLiterals (style : Style) (unit : Module) : Prop where
  /-- The literals of the text are the module paths and the constants. -/
  literals : literalsOf unit.marks = unit.literals
  /-- From the opening quote of a literal its text is read, up to what follows the literal. -/
  readInPlace : ∀ before content after,
    unit.marks = before ++ .literal content :: after →
      ∃ text,
        unit.chars style = before.flatMap (Mark.chars style) ++ text ∧
          Literal.read? style.quote text =
            some (content.toList, after.flatMap (Mark.chars style))

/-- Whatever a literal holds, its closing quote is found at its end. -/
theorem Module.keepsLiterals
    {style : Style}
    (apart : style.quote ≠ '\\')
    (unit : Module) :
    unit.KeepsLiterals style := by
  refine ⟨unit.literalsOf_marks, fun before content after laidOut => ?_⟩
  refine ⟨Literal.write style.quote content.toList ++ after.flatMap (Mark.chars style), ?_, ?_⟩
  · rw [Module.chars, laidOut, List.flatMap_append, List.flatMap_cons]
    rfl
  · exact Literal.read?_write_append apart content.toList _

/-- No text ends its own literal: read behind either quote, a literal gives its text and leaves what
follows, different texts have different literals, and no literal is complete before its end.  So
the module paths and the constants of every module are read where they stand. -/
theorem literals_end_at_their_quotes
    {quote : Char}
    (known : quote = '\'' ∨ quote = '"') :
    (∀ text rest,
      Literal.read? quote (Literal.write quote text ++ rest) = some (text, rest)) ∧
    Function.Injective (Literal.write quote) ∧
    (∀ text front back,
      Literal.write quote text = front ++ back → back ≠ [] →
        Literal.read? quote front = none) ∧
    ∀ (style : Style) (unit : Module), style.quote = quote → unit.KeepsLiterals style := by
  have apart : quote ≠ '\\' := by
    rcases known with rfl | rfl <;> decide
  refine ⟨Literal.read?_write_append apart, Literal.write_injective apart, ?_, ?_⟩
  · intro text front back written unfinished
    exact Literal.read?_eq_none_of_write apart written unfinished
  · rintro style unit rfl
    exact unit.keepsLiterals apart

/-- A module whose path and whose constants hold quotes and backslashes. -/
def quotedRoles : Module where
  fileName := "roles"
  imports := [⟨"./it's\\", .named ["z"]⟩]
  statements :=
    [.constant
      { exported := true
        name := "Role"
        value := .constObject [("OWNER", "\\\"'\\"), ("GUEST", "")] }]

theorem literals_end_at_their_quotes_roles :
    Literal.read? '\'' (Literal.write '\'' "\\'".toList ++ "';".toList) =
        some ("\\'".toList, "';".toList) ∧
      quotedRoles.KeepsLiterals Style.standard ∧
      quotedRoles.literals = ["./it's\\", "\\\"'\\", ""] := by
  have single := literals_end_at_their_quotes (.inl rfl : '\'' = '\'' ∨ '\'' = '"')
  have double := literals_end_at_their_quotes (.inr rfl : '"' = '\'' ∨ '"' = '"')
  exact ⟨single.1 _ _, double.2.2.2 Style.standard quotedRoles rfl, rfl⟩

end Code
end EntitySchema
