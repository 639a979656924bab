import EntitySchema.Yaml.Cursor

/-!
# Reading scalars

A scalar is plain, quoted or a block.  Line breaks inside plain and quoted scalars are folded: a
single one counts as a space and of several the first is dropped.
-/

namespace EntitySchema
namespace Yaml

/-- How a scalar is written. -/
inductive ScalarStyle
  | plain
  | singleQuoted
  | doubleQuoted
  | literal
  | folded
  deriving DecidableEq, Repr

/-! ## Gaps between words -/

/-- The blanks and line breaks between two words of a plain or quoted scalar. -/
structure Gap where
  /-- The blanks before any line break. -/
  blanks : List Char := []
  /-- Whether there is a line break. -/
  isBroken : Bool := false
  /-- The text of the first line break. -/
  firstBreak : List Char := []
  /-- The text of the other line breaks. -/
  laterBreaks : List Char := []

/-- The text that a gap stands for. -/
def Gap.text (gap : Gap) : List Char :=
  if !gap.isBroken then gap.blanks
  else if gap.firstBreak = ['\n'] then
    if gap.laterBreaks.isEmpty then [' '] else gap.laterBreaks
  else gap.firstBreak ++ gap.laterBreaks

/-- Read the rest of a gap.  Nothing is returned if a tab stands where a line has to be indented to
the given column. -/
def readGap? (indent : Nat) : Nat -> Gap -> Cursor -> Option (Gap × Cursor)
  | 0, gap, cursor => some (gap, cursor)
  | fuel + 1, gap, cursor =>
      match cursor.rest with
      | [] => some (gap, cursor)
      | character :: _ =>
          if isBlank character then
            if gap.isBroken then
              if character = '\t' && cursor.column < indent then none
              else readGap? indent fuel gap (cursor.advance 1)
            else
              readGap? indent fuel { gap with blanks := gap.blanks ++ [character] }
                (cursor.advance 1)
          else if isBreak character then
            let extended :=
              if gap.isBroken then
                { gap with laterBreaks := gap.laterBreaks ++ cursor.breakText }
              else
                { gap with isBroken := true, firstBreak := cursor.breakText }
            readGap? indent fuel extended cursor.skipBreak
          else some (gap, cursor)

/-! ## Plain scalars -/

/-- Whether a word of a plain scalar ends before a text. -/
def endsPlainWord (inFlow : Bool) : List Char -> Bool
  | [] => true
  | character :: rest =>
      isSpacing character || (character = ':' && atSpacing rest) ||
        (inFlow && isFlowIndicator character)

/-- Whether a text starts with a colon that no plain scalar of a flow collection may hold. -/
def startsWithBadColon (inFlow : Bool) : List Char -> Bool
  | ':' :: next :: _ => inFlow && (isFlowIndicator next || next = '?')
  | _ => false

/-- Read a word of a plain scalar and return its length. -/
def plainWordLength? (inFlow : Bool) : List Char -> Option Nat
  | [] => some 0
  | character :: rest =>
      if isSpacing character then some 0
      else if startsWithBadColon inFlow (character :: rest) then none
      else if endsPlainWord inFlow (character :: rest) then some 0
      else (plainWordLength? inFlow rest).map (· + 1)

/-- A plain scalar with what follows it, and whether a line break came last. -/
structure PlainReading where
  /-- The text of the scalar. -/
  text : List Char
  /-- What follows the scalar and the gap after it. -/
  cursor : Cursor
  /-- Whether the gap after the scalar has a line break. -/
  afterBreak : Bool

/-- Read a plain scalar whose lines after the first are indented to a column. -/
def readPlain? (inFlow : Bool) (indent : Nat) :
    Nat -> List Char -> Gap -> Cursor -> Option PlainReading
  | 0, text, gap, cursor => some ⟨text, cursor, gap.isBroken⟩
  | fuel + 1, text, gap, cursor =>
      if cursor.atDocumentMark || cursor.sees (· == '#') then
        some ⟨text, cursor, gap.isBroken⟩
      else do
        let length ← plainWordLength? inFlow cursor.rest
        if length = 0 then
          some ⟨text, cursor, gap.isBroken⟩
        else
          let extended := text ++ gap.text ++ cursor.rest.take length
          let afterWord := cursor.advance length
          if afterWord.sees isSpacing then
            let (nextGap, afterGap) ←
              readGap? indent (afterWord.rest.length + 1) {} afterWord
            if !inFlow && afterGap.column < indent then
              some ⟨extended, afterGap, nextGap.isBroken⟩
            else
              readPlain? inFlow indent fuel extended nextGap afterGap
          else
            some ⟨extended, afterWord, false⟩

/-! ## Quoted scalars -/

/-- The character that a letter stands for after a backslash. -/
def escapedCharacter? : Char -> Option Char
  | '0' => some '\x00'
  | 'a' => some '\x07'
  | 'b' => some '\x08'
  | 't' => some '\t'
  | '\t' => some '\t'
  | 'n' => some '\n'
  | 'v' => some '\x0b'
  | 'f' => some '\x0c'
  | 'r' => some '\r'
  | 'e' => some '\x1b'
  | ' ' => some ' '
  | '"' => some '"'
  | '/' => some '/'
  | '\\' => some '\\'
  | 'N' => some '\u0085'
  | '_' => some '\u00a0'
  | 'L' => some '\u2028'
  | 'P' => some '\u2029'
  | _ => none

/-- The number of hexadecimal digits that follow a letter after a backslash. -/
def escapeWidth? : Char -> Option Nat
  | 'x' => some 2
  | 'u' => some 4
  | 'U' => some 8
  | _ => none

/-- The value of a hexadecimal digit. -/
def hexDigit? (digit : Char) : Option Nat :=
  if digit.isDigit then some (digit.toNat - '0'.toNat)
  else if 'a' <= digit && digit <= 'f' then some (digit.toNat - 'a'.toNat + 10)
  else if 'A' <= digit && digit <= 'F' then some (digit.toNat - 'A'.toNat + 10)
  else none

/-- The character with a code in hexadecimal digits. -/
def characterOfHex? (width : Nat) (digits : List Char) : Option Char :=
  if digits.length < width then none
  else
    (digits.foldlM (fun value digit => (hexDigit? digit).map (16 * value + ·)) 0).bind fun code =>
      if code.isValidChar then some (Char.ofNat code) else none

/-- A part of a quoted scalar without blanks and line breaks, with what follows it. -/
structure QuotedWord where
  /-- The text of the part. -/
  text : List Char
  /-- What follows the part. -/
  cursor : Cursor
  /-- Whether an escaped line break ended the part. -/
  escapedBreak : Bool

/-- Read a word of a double-quoted scalar. -/
def readDoubleQuotedWord? : Nat -> List Char -> Cursor -> Option QuotedWord
  | 0, text, cursor => some ⟨text, cursor, false⟩
  | fuel + 1, text, cursor =>
      match cursor.rest with
      | [] => some ⟨text, cursor, false⟩
      | '\\' :: rest =>
          match rest with
          | [] => none
          | letter :: digits =>
              if isBreak letter then
                some ⟨text, (cursor.advance 1).skipBreak, true⟩
              else
                match escapeWidth? letter with
                | some width => do
                    let character ← characterOfHex? width (digits.take width)
                    readDoubleQuotedWord? fuel (text ++ [character]) (cursor.advance (2 + width))
                | none => do
                    let character ← escapedCharacter? letter
                    readDoubleQuotedWord? fuel (text ++ [character]) (cursor.advance 2)
      | character :: _ =>
          if isSpacing character || character = '"' then some ⟨text, cursor, false⟩
          else readDoubleQuotedWord? fuel (text ++ [character]) (cursor.advance 1)

/-- Read a word of a single-quoted scalar; two quotes stand for one. -/
def readSingleQuotedWord : Nat -> List Char -> Cursor -> QuotedWord
  | 0, text, cursor => ⟨text, cursor, false⟩
  | fuel + 1, text, cursor =>
      match cursor.rest with
      | [] => ⟨text, cursor, false⟩
      | '\'' :: '\'' :: _ => readSingleQuotedWord fuel (text ++ ['\'']) (cursor.advance 2)
      | character :: _ =>
          if isSpacing character || character = '\'' then ⟨text, cursor, false⟩
          else readSingleQuotedWord fuel (text ++ [character]) (cursor.advance 1)

/-- Read a quoted scalar after its opening quote, up to and including its closing quote. -/
def readQuoted? (single : Bool) : Nat -> List Char -> Cursor -> Option (List Char × Cursor)
  | 0, _, _ => none
  | fuel + 1, text, cursor =>
      if cursor.atDocumentMark || cursor.rest.isEmpty then none
      else do
        let quote := if single then '\'' else '"'
        let length := cursor.rest.length + 1
        let word ←
          if single then some (readSingleQuotedWord length text cursor)
          else readDoubleQuotedWord? length text cursor
        if word.cursor.sees (· == quote) then
          some (word.text, word.cursor.advance 1)
        else
          let (gap, afterGap) ← readGap? 0 length { isBroken := word.escapedBreak } word.cursor
          readQuoted? single fuel (word.text ++ gap.text) afterGap

/-! ## Block scalars -/

/-- What happens to the line breaks at the end of a block scalar. -/
inductive Chomping
  | strip
  | clip
  | keep
  deriving DecidableEq, Repr

/-- The header of a block scalar: what happens at its end and how far it is indented further. -/
structure BlockHeader where
  /-- What happens to the line breaks at the end. -/
  chomping : Chomping
  /-- The given further indentation, or zero. -/
  increment : Nat

/-- Read a chomping mark, if there is one. -/
def readChomping (cursor : Cursor) : Option Chomping × Cursor :=
  match cursor.rest with
  | '+' :: _ => (some .keep, cursor.advance 1)
  | '-' :: _ => (some .strip, cursor.advance 1)
  | _ => (none, cursor)

/-- Read a mark of further indentation, if there is one; it may not be zero. -/
def readIncrement? (cursor : Cursor) : Option (Nat × Cursor) :=
  match cursor.rest with
  | digit :: _ =>
      if digit = '0' then none
      else if digit.isDigit then some (digit.toNat - '0'.toNat, cursor.advance 1)
      else some (0, cursor)
  | [] => some (0, cursor)

/-- Read the header of a block scalar, whose two marks may come in either order. -/
def readBlockHeader? (cursor : Cursor) : Option (BlockHeader × Cursor) := do
  match readChomping cursor with
  | (some chomping, afterChomping) =>
      let (increment, afterIncrement) ← readIncrement? afterChomping
      let following ← afterIncrement.finishLine?
      some (⟨chomping, increment⟩, following)
  | (none, _) =>
      let (increment, afterIncrement) ← readIncrement? cursor
      let (chomping, afterChomping) :=
        if increment = 0 then (none, afterIncrement) else readChomping afterIncrement
      let following ← afterChomping.finishLine?
      some (⟨chomping.getD .clip, increment⟩, following)

/-- Pass over empty lines and indentation, and return the text of the line breaks and the greatest
column seen.  An indentation of zero is one that is not known yet. -/
def skipEmptyLines? (indent : Nat) :
    Nat -> List Char -> Nat -> Cursor -> Option (List Char × Nat × Cursor)
  | 0, breaks, widest, cursor => some (breaks, widest, cursor)
  | fuel + 1, breaks, widest, cursor =>
      let spaces := (cursor.rest.takeWhile (· == ' ')).length
      let indented :=
        cursor.advance (if indent = 0 then spaces else min spaces (indent - cursor.column))
      let widest := max widest indented.column
      if (indent = 0 || indented.column < indent) && indented.sees (· == '\t') then none
      else if indented.sees isBreak then
        skipEmptyLines? indent fuel (breaks ++ indented.breakText) widest indented.skipBreak
      else some (breaks, widest, indented)

/-- The lines of a block scalar that are read so far. -/
structure BlockLines where
  /-- The text of the finished lines. -/
  text : List Char := []
  /-- The line break after the last line. -/
  lastBreak : List Char := []
  /-- The line breaks of the empty lines after it. -/
  emptyBreaks : List Char := []
  /-- Whether the last line starts with a blank. -/
  lastIsIndented : Bool := false

/-- The text before a further line: in a folded scalar the break between two lines that do not
start with a blank counts as a space, or as nothing before empty lines. -/
def BlockLines.joint (lines : BlockLines) (literal startsBlank : Bool) : List Char :=
  if !literal && lines.lastBreak = ['\n'] && !lines.lastIsIndented && !startsBlank then
    (if lines.emptyBreaks.isEmpty then [' '] else []) ++ lines.emptyBreaks
  else
    lines.lastBreak ++ lines.emptyBreaks

/-- Read the lines of a block scalar that is indented to a column. -/
def readBlockLines? (literal : Bool) (indent : Nat) :
    Nat -> BlockLines -> Cursor -> Option (BlockLines × Cursor)
  | 0, lines, cursor => some (lines, cursor)
  | fuel + 1, lines, cursor =>
      if cursor.column = indent && !cursor.rest.isEmpty then do
        let startsBlank := cursor.sees isBlank
        let content := cursor.rest.takeWhile fun character => !isBreak character
        let atBreak := cursor.advance content.length
        let afterBreak := if atBreak.rest.isEmpty then atBreak else atBreak.skipBreak
        let (emptyBreaks, _, following) ←
          skipEmptyLines? indent (afterBreak.rest.length + 1) [] 0 afterBreak
        readBlockLines? literal indent fuel
          { text := lines.text ++ lines.joint literal startsBlank ++ content
            lastBreak := atBreak.breakText
            emptyBreaks
            lastIsIndented := startsBlank }
          following
      else some (lines, cursor)

/-- The text of a block scalar with its last line breaks treated as its header says. -/
def BlockLines.chomp (lines : BlockLines) : Chomping -> List Char
  | .strip => lines.text
  | .clip => lines.text ++ lines.lastBreak
  | .keep => lines.text ++ lines.lastBreak ++ lines.emptyBreaks

/-- Read a block scalar after its first character, inside a block indented to a column that is
below zero outside all blocks. -/
def readBlock? (literal : Bool) (outerIndent : Int) (cursor : Cursor) :
    Option (List Char × Cursor) := do
  let (header, firstLine) ← readBlockHeader? cursor
  let length := firstLine.rest.length + 1
  let given := if header.increment = 0 then 0 else (max outerIndent 0).toNat + header.increment
  let (emptyBreaks, widest, content) ← skipEmptyLines? given length [] 0 firstLine
  let indent := if given = 0 then max (max widest (outerIndent + 1).toNat) 1 else given
  let (lines, following) ← readBlockLines? literal indent length { emptyBreaks } content
  some (lines.chomp header.chomping, following)

end Yaml
end EntitySchema
