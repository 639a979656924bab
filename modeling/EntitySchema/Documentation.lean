import EntitySchema.Documentation.Segment
import EntitySchema.Text.Lines

/-!
# Documentation

What a data model says about a field, an entity or an enum consists of comment lines and directive
lines.  A directive line starts with a tag and carries a chain of segments, each of which is one
directive.  Each line is read by itself.
-/

namespace EntitySchema

/-- What a segment of a directive line asks for. -/
inductive Directive
  /-- Use this expression in place of the inferred one. -/
  | replaceBase (expression : String)
  /-- Append this call to the validator. -/
  | append (call : String)
  deriving DecidableEq, Repr

namespace Directive

/-- The name of the segment that replaces the inferred expression. -/
def replacementName : List Char := "custom".toList

/-- The directive of a segment. -/
def ofSegment (segment : Documentation.Segment) : Directive :=
  if segment.name = replacementName then
    replaceBase (String.ofList (Text.trim segment.arguments))
  else
    append (String.ofList segment.call)

/-- The text that a directive contributes. -/
def text : Directive -> String
  | replaceBase expression => expression
  | append call => call

/-- The expression that a directive puts in place of the inferred one. -/
def replacement? : Directive -> Option String
  | replaceBase expression => some expression
  | append _ => none

/-- The call that a directive appends. -/
def appended? : Directive -> Option String
  | replaceBase _ => none
  | append call => some call

end Directive

/-- The comment and the directives of a documentation text. -/
structure Documentation where
  /-- The comment lines, without white space at their ends. -/
  comment : List String := []
  /-- The directives in the order of their segments. -/
  directives : List Directive := []
  deriving DecidableEq, Repr

namespace Documentation

/-- The tag at the start of a directive line. -/
def tag : List Char := "@zod".toList

/-- The chain of a directive line, given without its leading white space.  The tag has to end at
a dot, at white space or with the line. -/
def chain? (line : List Char) : Option (List Char) :=
  if tag.isPrefixOf line then
    match line.drop tag.length with
    | [] => some []
    | first :: rest =>
        if first = '.' || Text.isWhiteSpace first then some (first :: rest) else none
  else
    none

/-- The directives of a chain. -/
def directivesOfChain (chain : List Char) : List Directive :=
  (segments (Text.trim chain)).map Directive.ofSegment

/-- What one line says. -/
def ofLine (line : List Char) : Documentation :=
  match chain? (Text.trimStart line) with
  | some chain => { directives := directivesOfChain chain }
  | none => { comment := [String.ofList (Text.trimEnd line)] }

/-- What two texts say one after the other. -/
def append (first second : Documentation) : Documentation where
  comment := first.comment ++ second.comment
  directives := first.directives ++ second.directives

/-- What the lines of a text say. -/
def ofLines (lines : List (List Char)) : Documentation :=
  lines.foldr (fun line later => append (ofLine line) later) {}

/-- What a documentation text says. -/
def ofText (text : String) : Documentation :=
  ofLines (Text.lines text.toList)

/-- What the documentation of a part of a data model says; without documentation, nothing. -/
def ofText? (text : Option String) : Documentation :=
  (text.map ofText).getD {}

/-- The expression of the first directive that replaces the inferred one. -/
def replacement? (documentation : Documentation) : Option String :=
  documentation.directives.findSome? Directive.replacement?

/-- The calls that directives append. -/
def appended (documentation : Documentation) : List String :=
  documentation.directives.filterMap Directive.appended?

/-- A comment line inside a block comment. -/
def blockLine (line : String) : String :=
  if line.isEmpty then " *" else " * " ++ line

/-- The lines of the block comment that shows the comment, if there is a comment. -/
def commentBlock (documentation : Documentation) : List String :=
  if documentation.comment.isEmpty then []
  else "/**" :: documentation.comment.map blockLine ++ [" */"]

end Documentation
end EntitySchema
