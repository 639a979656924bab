import EntitySchema.Proofs.EmptyLines

/-!
# Statements that fill their lines

A statement whose texts hold no line feed, and whose lines of comment or verbatim code are not
empty, is laid out so that every line has something on it.  Braces, keywords and colons see to that
even where names are empty and nothing is indented.
-/

namespace EntitySchema
namespace Code

open Text (OneLine oneLine_append)

/-! ## Texts that stay on their lines -/

/-- A line by itself: something without a line feed. -/
def IsLine (line : String) : Prop :=
  OneLine line ∧ line ≠ ""

instance (line : String) : Decidable (IsLine line) :=
  inferInstanceAs (Decidable (OneLine line ∧ line ≠ ""))

/-- The comment of an entry consists of lines, and its name and its validator hold no line feed. -/
structure Property.KeepsLines (property : Property) : Prop where
  docs : ∀ line ∈ property.docs, IsLine line
  name : OneLine property.name
  value : OneLine property.value.text

/-- The texts of an expression hold no line feed, and its verbatim lines are lines. -/
def Expression.KeepsLines : Expression -> Prop
  | validator value => OneLine value.text
  | object properties => ∀ property ∈ properties, property.KeepsLines
  | extend base properties => OneLine base ∧ ∀ property ∈ properties, property.KeepsLines
  | lazy inner => inner.KeepsLines
  | constObject entries => ∀ entry ∈ entries, OneLine entry.1 ∧ OneLine entry.2
  | verbatim lines => ∀ line ∈ lines, IsLine line.2

/-- The comment of a constant consists of lines, and its name, its type and the texts of its value
hold no line feed. -/
structure Constant.KeepsLines (declaration : Constant) : Prop where
  docs : ∀ line ∈ declaration.docs, IsLine line
  name : OneLine declaration.name
  type : ∀ type ∈ declaration.type, OneLine type
  value : declaration.value.KeepsLines

/-- The names of an interface and of its bases hold no line feed, and neither do the names and types
of its members. -/
structure Interface.KeepsLines (declaration : Interface) : Prop where
  name : OneLine declaration.name
  bases : ∀ base ∈ declaration.bases, OneLine base
  members : ∀ member ∈ declaration.members, OneLine member.name ∧ OneLine member.type

/-- The texts of a statement stay on their lines, and a comment has lines. -/
def Statement.KeepsLines : Statement -> Prop
  | lineComment lines => lines ≠ [] ∧ ∀ line ∈ lines, OneLine line
  | blockComment lines => lines ≠ [] ∧ ∀ line ∈ lines, IsLine line
  | typeAlias _ name type => OneLine name ∧ OneLine type
  | constant declaration => declaration.KeepsLines
  | interface declaration => declaration.KeepsLines
  | exportAll source => OneLine source

/-- The specifier of an import and the names that it brings into scope hold no line feed. -/
structure Import.KeepsLines (declaration : Import) : Prop where
  source : OneLine declaration.source
  symbols : ∀ symbol ∈ declaration.symbols, OneLine symbol

/-- All texts of a module stay on their lines. -/
structure Module.KeepsLines (unit : Module) : Prop where
  imports : ∀ declaration ∈ unit.imports, declaration.KeepsLines
  statements : ∀ statement ∈ unit.statements, statement.KeepsLines

/-! ## Marks one after the other -/

variable
  {filled next after : Bool}

theorem fills_nil : Fills filled [] filled := rfl

/-- Marks that fill their lines go on from where those before them stopped. -/
theorem Fills.append
    {first second : List Mark}
    (before : Fills filled first next)
    (behind : Fills next second after) :
    Fills filled (first ++ second) after := by
  rw [Fills, List.foldlM_append, before]
  exact behind

theorem Fills.cons
    {mark : Mark}
    {rest : List Mark}
    (step : mark.fill? filled = some next)
    (behind : Fills next rest after) :
    Fills filled (mark :: rest) after := by
  rw [Fills, List.foldlM_cons, step]
  exact behind

/-- Parts that each end as they start can be repeated. -/
theorem fills_flatMap
    {α : Type}
    {marks : α -> List Mark}
    {items : List α}
    (each : ∀ item ∈ items, Fills filled (marks item) filled) :
    Fills filled (items.flatMap marks) filled := by
  induction items with
  | nil => rfl
  | cons item rest inductionHypothesis =>
      rw [List.forall_mem_cons] at each
      exact each.1.append (inductionHypothesis each.2)

/-- A text with something in it fills its line. -/
theorem fill?_text
    {content : String}
    (oneLine : OneLine content)
    (nonempty : content ≠ "")
    (filled : Bool) :
    (Mark.text content).fill? filled = some true := by
  rw [Mark.fill?, if_pos oneLine, bne_iff_ne.mpr nonempty, Bool.or_true]

/-- A text leaves its line filled. -/
theorem fill?_text_filled
    {content : String}
    (oneLine : OneLine content) :
    (Mark.text content).fill? true = some true := by
  rw [Mark.fill?, if_pos oneLine, Bool.true_or]

theorem fill?_literal
    {content : String}
    (oneLine : OneLine content)
    (filled : Bool) :
    (Mark.literal content).fill? filled = some true := by
  rw [Mark.fill?, if_pos oneLine]

/-! ## Blocks and lists of lines -/

/-- Lines with line breaks between them are filled, and the last one is left open. -/
theorem joinedLines_fills
    {lines : List String}
    (nonempty : lines ≠ [])
    (areLines : ∀ line ∈ lines, IsLine line) :
    Fills false (Mark.joinedLines lines) true := by
  fun_induction Mark.joinedLines lines with
  | case1 => exact absurd rfl nonempty
  | case2 line =>
      obtain ⟨oneLine, something⟩ := areLines line List.mem_cons_self
      exact .cons (fill?_text oneLine something false) fills_nil
  | case3 line rest more inductionHypothesis =>
      rw [List.forall_mem_cons] at areLines
      have later := inductionHypothesis (by simpa using more) areLines.2
      exact .cons (fill?_text areLines.1.1 areLines.1.2 false) (.cons rfl later)

theorem wholeLine_fills
    {line : String}
    (isLine : IsLine line) :
    Fills false (Mark.wholeLine line) false :=
  .cons (fill?_text isLine.1 isLine.2 false) (.cons rfl fills_nil)

/-- The entries of a block have lines of their own, with a comma after each but the last. -/
theorem blockLines_fills
    {entries : List (List Mark)}
    (each : ∀ entry ∈ entries, Fills false entry true)
    (depth : Nat) :
    Fills false (Mark.blockLines depth entries) false := by
  fun_induction Mark.blockLines depth entries with
  | case1 => rfl
  | case2 entry =>
      have entryFills := each entry List.mem_cons_self
      exact .cons rfl (entryFills.append (.cons rfl (.cons rfl fills_nil)))
  | case3 entry rest _ inductionHypothesis =>
      rw [List.forall_mem_cons] at each
      have comma := fill?_text_filled (by decide : OneLine ",")
      exact .cons rfl (each.1.append (.cons comma (.cons rfl (inductionHypothesis each.2))))

/-- A block fills the line of its opening brace, those of its entries and that of its closing
brace. -/
theorem block_fills
    {entries : List (List Mark)}
    (each : ∀ entry ∈ entries, Fills false entry true)
    (depth : Nat) :
    Fills true (Mark.block depth entries) true := by
  rw [Mark.block]
  split_ifs
  · exact .cons (fill?_text_filled (by decide)) fills_nil
  · have closing : Fills false [.indent depth, .text "\x7d"] true :=
      .cons rfl (.cons (fill?_text (by decide) (by decide) false) fills_nil)
    have lines := (blockLines_fills each (depth + 1)).append closing
    exact .cons (fill?_text_filled (by decide)) (.cons rfl lines)

/-! ## Expressions -/

/-- The comment of an entry comes before it on lines of its own. -/
theorem Property.KeepsLines.fills
    {property : Property}
    (keeps : property.KeepsLines)
    (depth : Nat) :
    Fills false (property.marks depth) true := by
  have docs : Fills false
      (property.docs.flatMap fun line => [.text line, .lineBreak, .indent depth]) false := by
    apply fills_flatMap
    intro line member
    obtain ⟨oneLine, something⟩ := keeps.docs line member
    exact .cons (fill?_text oneLine something false) (.cons rfl (.cons rfl fills_nil))
  -- The colon is on the line even if the name and the validator are empty.
  have oneLine : OneLine (property.name ++ ": " ++ property.value.text) := by
    simp only [oneLine_append]
    exact ⟨⟨keeps.name, by decide⟩, keeps.value⟩
  exact docs.append (.cons (fill?_text oneLine (by simp) false) fills_nil)

theorem propertyBlock_fills
    {properties : List Property}
    (keeps : ∀ property ∈ properties, property.KeepsLines)
    (depth : Nat) :
    Fills true (propertyBlock depth properties) true := by
  refine block_fills ?_ depth
  rw [List.forall_mem_map]
  exact fun property member => (keeps property member).fills (depth + 1)

/-- Verbatim lines behind the first one start with their indentation. -/
theorem verbatimRest_fills
    {lines : List (Nat × String)}
    (areLines : ∀ line ∈ lines, IsLine line.2)
    (depth : Nat) :
    Fills true (verbatimRest depth lines) true := by
  induction lines with
  | nil => rfl
  | cons line rest inductionHypothesis =>
      rw [List.forall_mem_cons] at areLines
      obtain ⟨oneLine, something⟩ := areLines.1
      have shown : ¬ line.2.isEmpty := by simpa using something
      rw [verbatimRest, if_neg shown]
      have indented : Fills false [.indent (depth + line.1), .text line.2] true :=
        .cons rfl (.cons (fill?_text oneLine something false) fills_nil)
      exact .cons rfl (indented.append (inductionHypothesis areLines.2))

/-- An expression behind something on its line fills all of its lines. -/
theorem Expression.KeepsLines.fills
    {expression : Expression}
    (keeps : expression.KeepsLines)
    (depth : Nat) :
    Fills true (expression.marks depth) true := by
  have closing : Fills true [.text ")"] true :=
    .cons (fill?_text_filled (by decide)) fills_nil
  induction expression with
  | validator value => exact .cons (fill?_text_filled keeps) fills_nil
  | object properties =>
      exact .cons (fill?_text_filled (by decide))
        ((propertyBlock_fills keeps depth).append closing)
  | extend base properties =>
      have opening : OneLine (base ++ ".extend(") :=
        (oneLine_append _ _).mpr ⟨keeps.1, by decide⟩
      exact .cons (fill?_text_filled opening)
        ((propertyBlock_fills keeps.2 depth).append closing)
  | lazy inner inductionHypothesis =>
      exact .cons (fill?_text_filled (by decide)) ((inductionHypothesis keeps).append closing)
  | constObject entries =>
      have block : Fills true (Mark.block depth (entries.map constEntry)) true := by
        refine block_fills ?_ depth
        rw [List.forall_mem_map]
        intro entry member
        obtain ⟨key, value⟩ := keeps entry member
        have label : OneLine (entry.1 ++ ": ") := (oneLine_append _ _).mpr ⟨key, by decide⟩
        exact .cons (fill?_text label (by simp) false) (.cons (fill?_literal value true) fills_nil)
      exact block.append (.cons (fill?_text_filled (by decide)) fills_nil)
  | verbatim lines =>
      cases lines with
      | nil => rfl
      | cons line rest =>
          have keepsRest := List.forall_mem_cons.mp keeps
          exact .cons (fill?_text_filled keepsRest.1.1) (verbatimRest_fills keepsRest.2 depth)

/-! ## Statements and imports -/

/-- A constant starts with the lines of its comment, and its keyword fills the line after them. -/
theorem Constant.KeepsLines.fills
    {declaration : Constant}
    (keeps : declaration.KeepsLines) :
    Fills false declaration.marks true := by
  have docs : Fills false (declaration.docs.flatMap Mark.wholeLine) false :=
    fills_flatMap fun line member => wholeLine_fills (keeps.docs line member)
  have exported : OneLine (exportWord declaration.exported) := by
    cases declaration.exported <;> decide
  have value : Fills true (declaration.value.marks 0 ++ [.statementEnd]) true :=
    (keeps.value.fills 0).append (.cons rfl fills_nil)
  rw [Constant.marks, List.append_assoc]
  refine docs.append (.cons (fill?_text ?_ (by simp) false) value)
  simp only [oneLine_append]
  refine ⟨⟨⟨⟨exported, by decide⟩, keeps.name⟩, ?_⟩, by decide⟩
  cases known : declaration.type with
  | none => exact (by decide : OneLine "")
  | some type => exact (oneLine_append _ _).mpr ⟨by decide, keeps.type type known⟩

theorem Interface.KeepsLines.heading
    {declaration : Interface}
    (keeps : declaration.KeepsLines) :
    OneLine declaration.heading := by
  have opening : OneLine ("export interface " ++ declaration.name) :=
    (oneLine_append _ _).mpr ⟨by decide, keeps.name⟩
  have bases : OneLine (String.intercalate ", " declaration.bases) :=
    Text.oneLine_intercalate (by decide) keeps.bases
  unfold Interface.heading
  refine (oneLine_append _ _).mpr ⟨opening, ?_⟩
  cases declaration.bases.isEmpty with
  | true => exact (by decide : OneLine "")
  | false => exact (oneLine_append _ _).mpr ⟨by decide, bases⟩

/-- An interface fills its lines, whether or not it has members. -/
theorem Interface.KeepsLines.fills
    {declaration : Interface}
    (keeps : declaration.KeepsLines) :
    Fills false declaration.marks true := by
  have heading := keeps.heading
  rw [Interface.marks]
  split_ifs
  · have whole : OneLine (declaration.heading ++ " \x7b\x7d") :=
      (oneLine_append _ _).mpr ⟨heading, by decide⟩
    exact .cons (fill?_text whole (by simp) false) fills_nil
  · have opening : OneLine (declaration.heading ++ " \x7b") :=
      (oneLine_append _ _).mpr ⟨heading, by decide⟩
    have members : Fills false (declaration.members.flatMap Member.marks) false := by
      apply fills_flatMap
      intro member known
      obtain ⟨name, type⟩ := keeps.members member known
      have entry : OneLine
          (member.name ++ (if member.optional then "?" else "") ++ ": " ++ member.type) := by
        simp only [oneLine_append]
        refine ⟨⟨⟨name, ?_⟩, by decide⟩, type⟩
        split_ifs <;> decide
      exact .cons rfl (.cons (fill?_text entry (by simp) false) (.cons rfl (.cons rfl fills_nil)))
    have closing : Fills false [.text "\x7d"] true :=
      .cons (fill?_text (by decide) (by decide) false) fills_nil
    exact .cons (fill?_text opening (by simp) false) (.cons rfl (members.append closing))

/-- A statement whose texts stay on their lines fills its lines. -/
theorem Statement.KeepsLines.fills
    {statement : Statement}
    (keeps : statement.KeepsLines) :
    Fills false statement.marks true := by
  cases statement with
  | lineComment lines =>
      refine joinedLines_fills (by simpa using keeps.1) ?_
      rw [List.forall_mem_map]
      intro line member
      exact ⟨(oneLine_append _ _).mpr ⟨by decide, keeps.2 line member⟩, by simp⟩
  | blockComment lines => exact joinedLines_fills keeps.1 keeps.2
  | typeAlias exported name type =>
      have word : OneLine (exportWord exported) := by cases exported <;> decide
      have whole : OneLine (exportWord exported ++ "type " ++ name ++ " = " ++ type) := by
        simp only [oneLine_append]
        exact ⟨⟨⟨⟨word, by decide⟩, keeps.1⟩, by decide⟩, keeps.2⟩
      exact .cons (fill?_text whole (by simp) false) (.cons rfl fills_nil)
  | constant declaration => exact Constant.KeepsLines.fills keeps
  | interface declaration => exact Interface.KeepsLines.fills keeps
  | exportAll source =>
      exact .cons (fill?_text (by decide) (by decide) false)
        (.cons (fill?_literal keeps true) (.cons rfl fills_nil))

/-- An import is one line that starts with its keyword. -/
theorem Import.KeepsLines.fills
    {declaration : Import}
    (keeps : declaration.KeepsLines) :
    Fills false declaration.marks true := by
  have binding : OneLine declaration.binding.text := by
    have symbols := keeps.symbols
    rw [Import.symbols] at symbols
    cases known : declaration.binding with
    | named names =>
        rw [known] at symbols
        simp only [Binding.text, oneLine_append]
        exact ⟨⟨by decide, Text.oneLine_intercalate (by decide) symbols⟩, by decide⟩
    | whole name =>
        rw [known] at symbols
        exact (oneLine_append _ _).mpr ⟨by decide, symbols name List.mem_cons_self⟩
  have opening : OneLine ("import " ++ declaration.binding.text ++ " from ") := by
    simp only [oneLine_append]
    exact ⟨⟨by decide, binding⟩, by decide⟩
  exact .cons (fill?_text opening (by simp) false)
    (.cons (fill?_literal keeps.source true) (.cons rfl fills_nil))

end Code
end EntitySchema
