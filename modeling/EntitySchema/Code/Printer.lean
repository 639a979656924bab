import EntitySchema.Code.Layout
import EntitySchema.Code.Literal
import EntitySchema.Configuration

/-!
# Text of generated modules

A style decides on indentation, quotes, semicolons and trailing commas; everything else about the
text of a module is decided by its layout.
-/

namespace EntitySchema
namespace Code

/-- The choices that a module's layout leaves open. -/
structure Style where
  /-- One level of indentation. -/
  indent : String
  /-- The quote of string literals. -/
  quote : Char
  /-- Whether statements end with a semicolon. -/
  semicolons : Bool
  /-- Whether the last entry of a block is followed by a comma. -/
  trailingCommas : Bool
  deriving DecidableEq, Repr

namespace Style

/-- The style that a configuration asks for. -/
def ofConfiguration (configuration : Configuration) : Style where
  indent :=
    match configuration.indentKind with
    | .tab => "\t"
    | .space => String.ofList (List.replicate configuration.indentSize ' ')
  quote := if configuration.singleQuote then '\'' else '"'
  semicolons := configuration.semicolons == .insert
  trailingCommas := configuration.trailingCommas

/-- The style of the default configuration. -/
def standard : Style := ofConfiguration {}

/-- The indentation of a line at the given depth. -/
def indentation (style : Style) (depth : Nat) : List Char :=
  (List.replicate depth style.indent.toList).flatten

end Style

/-- The characters of a mark. -/
def Mark.chars (style : Style) : Mark -> List Char
  | text content => content.toList
  | literal content => Literal.write style.quote content.toList
  | lineBreak => ['\n']
  | separator => ['\n']
  | indent depth => style.indentation depth
  | statementEnd => if style.semicolons then [';'] else []
  | lastEntryEnd => if style.trailingCommas then [','] else []

/-- The characters of a module. -/
def Module.chars (style : Style) (unit : Module) : List Char :=
  unit.marks.flatMap (Mark.chars style)

/-- The text of a module. -/
def Module.text (style : Style) (unit : Module) : String :=
  String.ofList (unit.chars style)

end Code
end EntitySchema
