import EntitySchema.Yaml.Character
import EntitySchema.Yaml.PlainScalar

/-!
# Writing texts as YAML scalars

A text with a line feed is written as a literal block, and any other text as it is where that reads
back as the same text.  Otherwise it is put between single quotes, and between double quotes with
escapes when it has characters that do not show or spaces next to a line break.
-/

namespace EntitySchema
namespace Yaml
namespace ScalarText

/-- The spaces in front of the lines of a block. -/
def indentation : List Char := [' ', ' ']

/-! ## Features of a text -/

/-- Whether two neighbouring characters satisfy two predicates. -/
def hasNeighbours (first second : Char -> Bool) : List Char -> Bool
  | left :: right :: rest =>
      (first left && second right) || hasNeighbours first second (right :: rest)
  | _ => false

/-- Whether a character is a space. -/
def isSpace (character : Char) : Bool := character = ' '

/-- Whether a text has a character that is only written by an escape. -/
def hasHidden (text : List Char) : Bool :=
  text.any fun character => !isVisible character

/-- Whether a text has a space right before a line break. -/
def hasSpaceBeforeBreak (text : List Char) : Bool :=
  hasNeighbours isSpace isBreak text

/-- Whether a text starts or ends with a space or a line break. -/
def hasLooseEnd (text : List Char) : Bool :=
  let isLoose := fun character => isSpace character || isBreak character
  text.head?.any isLoose || text.getLast?.any isLoose

/-- Whether a character may not start a scalar without quotes. -/
def isLeadingIndicator (character : Char) : Bool :=
  "#,[]\x7b\x7d&*!|>'\"%@`".toList.contains character

/-- Whether a text starts like a scalar that needs quotes. -/
def startsWithIndicator (text : List Char) : Bool :=
  ['-', '-', '-'].isPrefixOf text || ['.', '.', '.'].isPrefixOf text ||
    match text with
    | [] => false
    | first :: rest =>
        isLeadingIndicator first ||
          ((first = '-' || first = '?' || first = ':') && atSpacing rest)

/-- Whether a colon stands at the end or before spacing, or a hash after spacing. -/
def hasInnerIndicator : List Char -> Bool
  | [] => false
  | character :: rest =>
      (character = ':' && atSpacing rest) ||
        (isSpacing character && rest.head? = some '#') ||
        hasInnerIndicator rest

/-- Whether a text may be written without quotes. -/
def isPlain (text : List Char) : Bool :=
  !hasLooseEnd text && !hasHidden text && !text.any isBreak &&
    !startsWithIndicator text && !hasInnerIndicator text

/-- Whether a text may be written between single quotes. -/
def isSingleQuotable (text : List Char) : Bool :=
  !hasHidden text && !hasSpaceBeforeBreak text && !hasNeighbours isBreak isSpace text

/-- Whether a text may be written as a literal block. -/
def isBlock (text : List Char) : Bool :=
  !hasHidden text && !hasSpaceBeforeBreak text && !text.getLast?.any isSpace

/-- Whether a text without quotes would be read as something other than a text. -/
def isMistakable (text : List Char) : Bool :=
  PlainValue.ofText (String.ofList text) != .ownText || PlainValue.isZeroPadded text

/-! ## Styles -/

/-- The body of a single-quoted text: quotes are doubled, and what follows a line break is
indented. -/
def singleQuotedFrom (afterBreak : Bool) : List Char -> List Char
  | [] => if afterBreak then indentation else []
  | character :: rest =>
      if isBreak character then
        character :: singleQuotedFrom true rest
      else
        let lead := if afterBreak then indentation else []
        let body := if character = '\'' then ['\'', '\''] else [character]
        lead ++ body ++ singleQuotedFrom false rest

/-- A text between single quotes. -/
def singleQuoted (text : List Char) : List Char :=
  '\'' :: singleQuotedFrom false text ++ ['\'']

/-- The upper case hexadecimal digits of a code, padded with zeros to a width. -/
def paddedHex (width code : Nat) : List Char :=
  let digits := (Nat.toDigits 16 code).map Char.toUpper
  List.replicate (width - digits.length) '0' ++ digits

/-- The letter that stands for a character after a backslash, if there is one. -/
def escapeLetter? (character : Char) : Option Char :=
  match character with
  | '\x07' => some 'a'
  | '\x08' => some 'b'
  | '\t' => some 't'
  | '\n' => some 'n'
  | '\x0b' => some 'v'
  | '\x0c' => some 'f'
  | '\r' => some 'r'
  | '\x1b' => some 'e'
  | '"' => some '"'
  | '\\' => some '\\'
  | '\u0085' => some 'N'
  | '\u2028' => some 'L'
  | '\u2029' => some 'P'
  | _ => if character.toNat = 0 then some '0' else none

/-- The form of a character between double quotes. -/
def doubleQuotedForm (character : Char) : List Char :=
  match escapeLetter? character with
  | some letter => ['\\', letter]
  | none =>
      let code := character.toNat
      if isVisible character then [character]
      else if code <= 0xFF then '\\' :: 'x' :: paddedHex 2 code
      else if code <= 0xFFFF then '\\' :: 'u' :: paddedHex 4 code
      else '\\' :: 'U' :: paddedHex 8 code

/-- A text between double quotes. -/
def doubleQuoted (text : List Char) : List Char :=
  '"' :: text.flatMap doubleQuotedForm ++ ['"']

/-- The mark that tells the indentation, which is needed when the first line does not show it. -/
def indentationMark (text : List Char) : List Char :=
  if text.head?.any fun character => isSpace character || isBreak character then ['2'] else []

/-- The mark for the line breaks at the end of a block: `-` for none, no mark for exactly one
after other text, and `+` otherwise. -/
def chompingMark (text : List Char) : List Char :=
  match text.reverse with
  | last :: previous :: _ =>
      if !isBreak last then ['-'] else if isBreak previous then ['+'] else []
  | [last] => if isBreak last then ['+'] else ['-']
  | [] => ['-']

/-- The lines of a block; empty lines are not indented. -/
def blockLinesFrom (atLineStart : Bool) : List Char -> List Char
  | [] => if atLineStart then [] else ['\n']
  | character :: rest =>
      if isBreak character then
        character :: blockLinesFrom true rest
      else
        (if atLineStart then indentation else []) ++ character :: blockLinesFrom false rest

/-- A text as a literal block, its last line end included. -/
def block (text : List Char) : List Char :=
  '|' :: indentationMark text ++ chompingMark text ++ '\n' :: blockLinesFrom true text

/-- A text that has no line feed as a scalar on its own. -/
def inlineScalar (text : List Char) : List Char :=
  if !isMistakable text && isPlain text then text
  else if isSingleQuotable text then singleQuoted text
  else doubleQuoted text

/-- A text as the value of an entry, up to the end of the entry's last line. -/
def entryValue (text : String) : String :=
  let characters := text.toList
  String.ofList
    (if characters.contains '\n' then
      if isBlock characters then block characters
      else doubleQuoted characters ++ ['\n']
    else
      inlineScalar characters ++ ['\n'])

end ScalarText
end Yaml
end EntitySchema
