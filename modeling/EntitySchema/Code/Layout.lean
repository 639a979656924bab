import EntitySchema.Code.Module

/-!
# Layout of generated modules

A module is laid out as a list of marks: fixed text, line breaks, and the places where a style has
a choice.  The marks do not depend on the style.
-/

namespace EntitySchema
namespace Code

/-- A piece of a laid out module. -/
inductive Mark
  /-- Text that every style writes alike. -/
  | text (content : String)
  /-- A string literal. -/
  | literal (content : String)
  /-- The end of a line. -/
  | lineBreak
  /-- An empty line between two parts of a module. -/
  | separator
  /-- Indentation of the given depth at the start of a line. -/
  | indent (depth : Nat)
  /-- The end of a statement. -/
  | statementEnd
  /-- The end of the last entry of a block. -/
  | lastEntryEnd
  deriving DecidableEq, Repr

namespace Mark

/-- Put line breaks between texts. -/
def joinedLines : List String -> List Mark
  | [] => []
  | [line] => [text line]
  | line :: rest => text line :: lineBreak :: joinedLines rest

/-- A line of text and the break after it. -/
def wholeLine (line : String) : List Mark :=
  [text line, lineBreak]

/-- The lines between the braces of a block, each with one entry. -/
def blockLines (depth : Nat) : List (List Mark) -> List Mark
  | [] => []
  | [entry] => indent depth :: entry ++ [lastEntryEnd, lineBreak]
  | entry :: rest => indent depth :: entry ++ text "," :: lineBreak :: blockLines depth rest

/-- A block in braces: one line for each entry, or nothing between the braces. -/
def block (depth : Nat) (entries : List (List Mark)) : List Mark :=
  if entries.isEmpty then [text "\x7b\x7d"]
  else
    text "\x7b" :: lineBreak :: blockLines (depth + 1) entries ++ [indent depth, text "\x7d"]

end Mark

open Mark

/-- An entry of an object schema, below its comment. -/
def Property.marks (depth : Nat) (property : Property) : List Mark :=
  property.docs.flatMap (fun line => [text line, lineBreak, indent depth]) ++
    [text (property.name ++ ": " ++ property.value.text)]

/-- The block of the entries of an object schema. -/
def propertyBlock (depth : Nat) (properties : List Property) : List Mark :=
  block depth (properties.map (Property.marks (depth + 1)))

/-- An entry of an object of constants. -/
def constEntry (entry : String × String) : List Mark :=
  [text (entry.1 ++ ": "), literal entry.2]

/-- The lines of a verbatim expression after its first line.  Empty lines are not indented. -/
def verbatimRest (depth : Nat) : List (Nat × String) -> List Mark
  | [] => []
  | (level, line) :: rest =>
      lineBreak ::
        (if line.isEmpty then [] else [indent (depth + level), text line]) ++
          verbatimRest depth rest

/-- A verbatim expression; its first line continues the line that it stands on. -/
def verbatimMarks (depth : Nat) : List (Nat × String) -> List Mark
  | [] => []
  | (_, line) :: rest => text line :: verbatimRest depth rest

/-- An expression that starts on a line of the given depth. -/
def Expression.marks (depth : Nat) : Expression -> List Mark
  | validator value => [text value.text]
  | object properties => text "z.object(" :: propertyBlock depth properties ++ [text ")"]
  | extend base properties =>
      text (base ++ ".extend(") :: propertyBlock depth properties ++ [text ")"]
  | lazy inner => text "z.lazy(() => " :: inner.marks depth ++ [text ")"]
  | constObject entries => block depth (entries.map constEntry) ++ [text " as const"]
  | verbatim lines => verbatimMarks depth lines

/-- What an import binds, as it is written. -/
def Binding.text : Binding -> String
  | named symbols => "\x7b " ++ String.intercalate ", " symbols ++ " \x7d"
  | whole name => "* as " ++ name

/-- An import declaration. -/
def Import.marks (declaration : Import) : List Mark :=
  [ text ("import " ++ declaration.binding.text ++ " from "),
    literal declaration.source,
    statementEnd ]

/-- The word before a declaration that other modules see. -/
def exportWord (exported : Bool) : String :=
  if exported then "export " else ""

/-- A declaration of a constant, below its comment. -/
def Constant.marks (declaration : Constant) : List Mark :=
  declaration.docs.flatMap wholeLine ++
    text (exportWord declaration.exported ++ "const " ++ declaration.name ++
      (match declaration.type with
        | some type => ": " ++ type
        | none => "") ++ " = ") ::
    declaration.value.marks 0 ++ [statementEnd]

/-- An entry of an interface on its line. -/
def Member.marks (member : Member) : List Mark :=
  [ indent 1,
    text (member.name ++ (if member.optional then "?" else "") ++ ": " ++ member.type),
    statementEnd,
    lineBreak ]

/-- The first words of an interface declaration. -/
def Interface.heading (declaration : Interface) : String :=
  "export interface " ++ declaration.name ++
    (if declaration.bases.isEmpty then ""
      else " extends " ++ String.intercalate ", " declaration.bases)

/-- A declaration of an interface. -/
def Interface.marks (declaration : Interface) : List Mark :=
  if declaration.members.isEmpty then [text (declaration.heading ++ " \x7b\x7d")]
  else
    text (declaration.heading ++ " \x7b") :: lineBreak ::
      declaration.members.flatMap Member.marks ++ [text "\x7d"]

/-- A statement, without the break after its last line. -/
def Statement.marks : Statement -> List Mark
  | lineComment lines => joinedLines (lines.map fun line => "// " ++ line)
  | blockComment lines => joinedLines lines
  | typeAlias exported name type =>
      [text (exportWord exported ++ "type " ++ name ++ " = " ++ type), statementEnd]
  | constant declaration => declaration.marks
  | interface declaration => declaration.marks
  | exportAll source => [text "export * from ", literal source, statementEnd]

/-- Whether an empty line stands between two adjacent statements.  A comment belongs to what
follows it, re-exports stand together, and so do internal declarations. -/
def Statement.isSeparatedFrom (first second : Statement) : Bool :=
  !(first.isComment || (first.isExportAll && second.isExportAll) ||
    (first.isInternal && second.isInternal))

/-- Statements with the empty lines between them. -/
def statementMarks : List Statement -> List Mark
  | [] => []
  | [statement] => statement.marks ++ [lineBreak]
  | statement :: next :: rest =>
      statement.marks ++ lineBreak ::
        (if statement.isSeparatedFrom next then [separator] else []) ++
          statementMarks (next :: rest)

/-- The import declarations of a module, one on each line. -/
def importMarks (imports : List Import) : List Mark :=
  imports.flatMap fun declaration => declaration.marks ++ [lineBreak]

/-- A module: its imports, an empty line and its statements. -/
def Module.marks (unit : Module) : List Mark :=
  importMarks unit.imports ++
    (if unit.imports.isEmpty || unit.statements.isEmpty then [] else [separator]) ++
      statementMarks unit.statements

end Code
end EntitySchema
