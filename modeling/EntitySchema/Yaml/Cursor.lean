import EntitySchema.Yaml.Character

/-!
# Places in YAML text

Indentation and the length of keys matter, so the reader keeps track of the line and column of the
text that is still to be read.
-/

namespace EntitySchema
namespace Yaml

/-- The text that is still to be read, and where it starts. -/
structure Cursor where
  /-- The text that is still to be read. -/
  rest : List Char
  /-- The number of characters before it. -/
  index : Nat := 0
  /-- The number of line breaks before it. -/
  line : Nat := 0
  /-- The number of characters before it on its line. -/
  column : Nat := 0

namespace Cursor

/-- Pass over characters of the current line. -/
def advance (cursor : Cursor) (count : Nat) : Cursor :=
  { cursor with
    rest := cursor.rest.drop count
    index := cursor.index + count
    column := cursor.column + count }

/-- Pass over the characters of the current line that satisfy a predicate. -/
def skipWhile (cursor : Cursor) (accepts : Char -> Bool) : Cursor :=
  cursor.advance (cursor.rest.takeWhile accepts).length

/-- Whether the text goes on with a character that satisfies a predicate. -/
def sees (cursor : Cursor) (accepts : Char -> Bool) : Bool :=
  cursor.rest.head?.any accepts

/-- Pass over a line break; a carriage return and a line feed are one. -/
def skipBreak (cursor : Cursor) : Cursor :=
  let width := if ['\r', '\n'].isPrefixOf cursor.rest then 2 else 1
  { rest := cursor.rest.drop width
    index := cursor.index + width
    line := cursor.line + 1
    column := 0 }

/-- The text that the line break at the cursor stands for: a line feed, or one of the two
separators that stand for themselves. -/
def breakText (cursor : Cursor) : List Char :=
  match cursor.rest with
  | [] => []
  | '\u2028' :: _ => ['\u2028']
  | '\u2029' :: _ => ['\u2029']
  | _ => ['\n']

/-- Whether the cursor is at the start of a line that starts or ends a document. -/
def atDocumentMark (cursor : Cursor) : Bool :=
  cursor.column = 0 &&
    (['-', '-', '-'].isPrefixOf cursor.rest || ['.', '.', '.'].isPrefixOf cursor.rest) &&
    atSpacing (cursor.rest.drop 3)

/-- Pass over a comment, if there is one here. -/
def skipComment (cursor : Cursor) : Cursor :=
  if cursor.sees (· == '#') then cursor.skipWhile fun character => !isBreak character else cursor

/-- Pass over blanks and a comment to the end of the line, and over the line's end.  Nothing is
returned if the line goes on. -/
def finishLine? (cursor : Cursor) : Option Cursor :=
  let atEnd := (cursor.skipWhile isBlank).skipComment
  if atEnd.sees isBreak then some atEnd.skipBreak
  else if atEnd.rest.isEmpty then some atEnd
  else none

end Cursor
end Yaml
end EntitySchema
