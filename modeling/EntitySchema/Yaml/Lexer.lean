import EntitySchema.Yaml.Tag

/-!
# Splitting YAML text into tokens

The lexer keeps the columns of the open block collections and, for every open flow collection, the
place where a key may have started.  A key must be followed by its colon on the same line and within
1024 characters.
-/

namespace EntitySchema
namespace Yaml

/-- A place where a key may have started. -/
structure PossibleKey where
  /-- The number of the place among the tokens. -/
  place : Nat
  /-- Whether only a key may stand there. -/
  isRequired : Bool
  /-- Where the key starts. -/
  index : Nat
  /-- The line on which it starts. -/
  line : Nat
  /-- The column at which it starts. -/
  column : Nat

/-- The state of splitting a text into tokens. -/
structure Lexer where
  /-- The text that is still to be read. -/
  cursor : Cursor
  /-- The number of open flow collections. -/
  flowDepth : Nat := 0
  /-- The column of the innermost block collection, below zero outside all of them. -/
  indent : Int := -1
  /-- The columns of the block collections around it. -/
  outerIndents : List Int := []
  /-- Whether a key may start here. -/
  keyAllowed : Bool := true
  /-- The place of a possible key in every open flow collection, the innermost first, and outside
  all of them. -/
  possibleKeys : List (Option PossibleKey) := [none]
  /-- The number of places kept so far. -/
  placeCount : Nat := 0
  /-- The tokens and places so far, the last one first. -/
  reversed : List TokenEntry := []
  /-- The places that turned out to be keys. -/
  resolved : List ResolvedPlace := []

namespace Lexer

/-- Whether a flow collection is open. -/
def inFlow (lexer : Lexer) : Bool := 0 < lexer.flowDepth

/-- Append a token. -/
def emit (lexer : Lexer) (token : Token) : Lexer :=
  { lexer with reversed := .token token :: lexer.reversed }

/-- Append a token and pass over its characters. -/
def emitAdvance (lexer : Lexer) (token : Token) (count : Nat) : Lexer :=
  { lexer.emit token with cursor := lexer.cursor.advance count }

/-- Set whether a key may start here. -/
def allowKey (lexer : Lexer) (allowed : Bool) : Lexer :=
  { lexer with keyAllowed := allowed }

/-! ## Indentation -/

/-- Open a block collection at a column, unless one is open there or a flow collection is open. -/
def openBlock (lexer : Lexer) (column : Nat) (token : Token) : Lexer :=
  if !lexer.inFlow && lexer.indent < column then
    { lexer.emit token with
      indent := column
      outerIndents := lexer.indent :: lexer.outerIndents }
  else lexer

/-- Close the block collections that are indented further than a column. -/
def closeBlocksFrom (column : Int) : List Int -> Lexer -> Lexer
  | [], lexer => lexer
  | outer :: rest, lexer =>
      if column < lexer.indent then
        closeBlocksFrom column rest
          { lexer.emit .blockEnd with indent := outer, outerIndents := rest }
      else lexer

/-- Close the block collections that are indented further than a column, outside flow
collections. -/
def closeBlocks (lexer : Lexer) (column : Int) : Lexer :=
  if lexer.inFlow then lexer else closeBlocksFrom column lexer.outerIndents lexer

/-! ## Possible keys -/

/-- Drop a possible key that can no longer get its colon.  Nothing is returned if it was
required. -/
def refreshKey? (cursor : Cursor) : Option PossibleKey -> Option (Option PossibleKey)
  | none => some none
  | some key =>
      if key.line < cursor.line || key.index + 1024 < cursor.index then
        if key.isRequired then none else some none
      else some (some key)

/-- Drop the possible keys that can no longer get their colon. -/
def refreshKeys? (lexer : Lexer) : Option Lexer := do
  let possibleKeys ← lexer.possibleKeys.mapM (refreshKey? lexer.cursor)
  some { lexer with possibleKeys }

/-- Forget the innermost possible key.  Nothing is returned if it was required. -/
def forgetKey? (lexer : Lexer) : Option Lexer :=
  match lexer.possibleKeys with
  | some key :: outer =>
      if key.isRequired then none else some { lexer with possibleKeys := none :: outer }
  | _ => some lexer

/-- Keep a place for a key that may start here. -/
def keepPlace? (lexer : Lexer) : Option Lexer :=
  if lexer.keyAllowed then do
    let forgotten ← lexer.forgetKey?
    let key : PossibleKey :=
      { place := lexer.placeCount
        isRequired := !lexer.inFlow && lexer.indent = lexer.cursor.column
        index := lexer.cursor.index
        line := lexer.cursor.line
        column := lexer.cursor.column }
    some { forgotten with
      possibleKeys := some key :: forgotten.possibleKeys.drop 1
      placeCount := lexer.placeCount + 1
      reversed := .place lexer.placeCount :: forgotten.reversed }
  else some lexer

/-! ## Steps -/

/-- Pass over spaces, comments and line breaks up to the next token.  Tabs count as spaces where no
key may start. -/
def skipToToken : Nat -> Lexer -> Lexer
  | 0, lexer => lexer
  | fuel + 1, lexer =>
      let start :=
        if lexer.cursor.index = 0 && lexer.cursor.sees (· == '\ufeff') then
          lexer.cursor.advance 1
        else lexer.cursor
      let afterBlanks := start.skipWhile fun character =>
        character = ' ' || (character = '\t' && (lexer.inFlow || !lexer.keyAllowed))
      let cursor := afterBlanks.skipComment
      if cursor.sees isBreak then
        skipToToken fuel
          { lexer with
            cursor := cursor.skipBreak
            keyAllowed := lexer.keyAllowed || !lexer.inFlow }
      else { lexer with cursor }

/-- Leave all blocks before a directive or a document mark. -/
def leaveBlocks? (lexer : Lexer) : Option Lexer := do
  let closed ← (lexer.closeBlocks (-1)).forgetKey?
  some (closed.allowKey false)

/-- Read a directive. -/
def stepDirective? (lexer : Lexer) : Option Lexer := do
  let outside ← lexer.leaveBlocks?
  let (token, cursor) ← readDirective? outside.cursor
  some { outside.emit token with cursor }

/-- Read a document mark. -/
def stepDocumentMark? (lexer : Lexer) (token : Token) : Option Lexer := do
  let outside ← lexer.leaveBlocks?
  some (outside.emitAdvance token 3)

/-- Read the start of a flow collection, which may itself be a key. -/
def stepFlowStart? (lexer : Lexer) (token : Token) : Option Lexer := do
  let kept ← lexer.keepPlace?
  some
    (({ kept with
        possibleKeys := none :: kept.possibleKeys
        flowDepth := kept.flowDepth + 1 }.allowKey true).emitAdvance token 1)

/-- Read the end of a flow collection. -/
def stepFlowEnd? (lexer : Lexer) (token : Token) : Option Lexer := do
  let forgotten ← lexer.forgetKey?
  let closed :=
    if forgotten.inFlow then
      { forgotten with
        flowDepth := forgotten.flowDepth - 1
        possibleKeys := forgotten.possibleKeys.drop 1 }
    else forgotten
  some ((closed.allowKey false).emitAdvance token 1)

/-- Read the comma of a flow collection. -/
def stepFlowEntry? (lexer : Lexer) : Option Lexer := do
  let forgotten ← lexer.forgetKey?
  some ((forgotten.allowKey true).emitAdvance .flowEntry 1)

/-- Read the dash of a block sequence. -/
def stepBlockEntry? (lexer : Lexer) : Option Lexer :=
  if !lexer.inFlow && !lexer.keyAllowed then none
  else do
    let opened := lexer.openBlock lexer.cursor.column .blockSequenceStart
    let forgotten ← opened.forgetKey?
    some ((forgotten.allowKey true).emitAdvance .blockEntry 1)

/-- Read the question mark before a key. -/
def stepKey? (lexer : Lexer) : Option Lexer :=
  if !lexer.inFlow && !lexer.keyAllowed then none
  else do
    let opened := lexer.openBlock lexer.cursor.column .blockMappingStart
    let forgotten ← opened.forgetKey?
    some ((forgotten.allowKey (!lexer.inFlow)).emitAdvance .key 1)

/-- Read the colon after a key that turned out to start at a kept place. -/
def stepValueOfKey (lexer : Lexer) (key : PossibleKey) : Lexer :=
  let startsMapping := !lexer.inFlow && lexer.indent < key.column
  let opened :=
    if startsMapping then
      { lexer with indent := key.column, outerIndents := lexer.indent :: lexer.outerIndents }
    else lexer
  ({ opened with
      resolved := ⟨key.place, startsMapping⟩ :: opened.resolved
      possibleKeys := none :: opened.possibleKeys.drop 1 }.allowKey false).emitAdvance .value 1

/-- Read the colon before a value. -/
def stepValue? (lexer : Lexer) : Option Lexer :=
  match lexer.possibleKeys with
  | some key :: _ => some (lexer.stepValueOfKey key)
  | _ =>
      if !lexer.inFlow && !lexer.keyAllowed then none
      else
        let opened := lexer.openBlock lexer.cursor.column .blockMappingStart
        some ((opened.allowKey (!lexer.inFlow)).emitAdvance .value 1)

/-- Read an anchor or an alias. -/
def stepAnchor? (lexer : Lexer) (token : String -> Token) : Option Lexer := do
  let kept ← lexer.keepPlace?
  let (name, cursor) ← readAnchorName? kept.cursor
  some { (kept.allowKey false).emit (token name) with cursor }

/-- Read a tag. -/
def stepTag? (lexer : Lexer) : Option Lexer := do
  let kept ← lexer.keepPlace?
  let (token, cursor) ← readTag? kept.inFlow kept.cursor
  some { (kept.allowKey false).emit token with cursor }

/-- Read a block scalar. -/
def stepBlockScalar? (lexer : Lexer) (literal : Bool) : Option Lexer := do
  let forgotten ← lexer.forgetKey?
  let (text, cursor) ← readBlock? literal forgotten.indent (forgotten.cursor.advance 1)
  let style := if literal then ScalarStyle.literal else .folded
  some { (forgotten.allowKey true).emit (.scalar style (String.ofList text)) with cursor }

/-- Read a quoted scalar. -/
def stepQuoted? (lexer : Lexer) (single : Bool) : Option Lexer := do
  let kept ← lexer.keepPlace?
  let start := kept.cursor.advance 1
  let (text, cursor) ← readQuoted? single (start.rest.length + 1) [] start
  let style := if single then ScalarStyle.singleQuoted else .doubleQuoted
  some { (kept.allowKey false).emit (.scalar style (String.ofList text)) with cursor }

/-- Read a plain scalar. -/
def stepPlain? (lexer : Lexer) : Option Lexer := do
  let kept ← lexer.keepPlace?
  let reading ←
    readPlain? kept.inFlow (kept.indent + 1).toNat (kept.cursor.rest.length + 1) [] {} kept.cursor
  some
    { (kept.allowKey reading.afterBreak).emit (.scalar .plain (String.ofList reading.text)) with
      cursor := reading.cursor }

/-- Whether a character may not start a plain scalar. -/
def isIndicator (character : Char) : Bool :=
  "-?:,[]\x7b\x7d#&*!|>'\"%@`".toList.contains character

/-- Whether a plain scalar starts with the given character before the given text. -/
def startsPlain (inFlow : Bool) (character : Char) (rest : List Char) : Bool :=
  !(isSpacing character || isIndicator character) ||
    (character = '-' && !rest.head?.any isBlank) ||
    (!inFlow && (character = '?' || character = ':') && !atSpacing rest)

/-- Read the token that starts with the given character before the given text. -/
def stepToken? (lexer : Lexer) (character : Char) (rest : List Char) : Option Lexer :=
  if lexer.cursor.column = 0 && character = '%' then lexer.stepDirective?
  else if lexer.cursor.atDocumentMark then
    lexer.stepDocumentMark? (if character = '-' then .documentStart else .documentEnd)
  else if character = '[' then lexer.stepFlowStart? .flowSequenceStart
  else if character = '\x7b' then lexer.stepFlowStart? .flowMappingStart
  else if character = ']' then lexer.stepFlowEnd? .flowSequenceEnd
  else if character = '\x7d' then lexer.stepFlowEnd? .flowMappingEnd
  else if character = ',' then lexer.stepFlowEntry?
  else if character = '-' && atSpacing rest then lexer.stepBlockEntry?
  else if character = '?' && (lexer.inFlow || atSpacing rest) then lexer.stepKey?
  else if character = ':' && (lexer.inFlow || atSpacing rest) then lexer.stepValue?
  else if character = '*' then lexer.stepAnchor? Token.alias
  else if character = '&' then lexer.stepAnchor? Token.anchor
  else if character = '!' then lexer.stepTag?
  else if character = '|' && !lexer.inFlow then lexer.stepBlockScalar? true
  else if character = '>' && !lexer.inFlow then lexer.stepBlockScalar? false
  else if character = '\'' then lexer.stepQuoted? true
  else if character = '"' then lexer.stepQuoted? false
  else if startsPlain lexer.inFlow character rest then lexer.stepPlain?
  else none

/-- Finish the list of tokens at the end of the text. -/
def finish? (lexer : Lexer) : Option (List Token) := do
  let outside ← (lexer.closeBlocks (-1)).forgetKey?
  some (tokensOfEntries outside.resolved (outside.emit .streamEnd).reversed.reverse)

/-- Read all tokens; every step passes over a character. -/
def run? : Nat -> Lexer -> Option (List Token)
  | 0, _ => none
  | fuel + 1, lexer => do
      let refreshed ← (skipToToken (lexer.cursor.rest.length + 1) lexer).refreshKeys?
      match refreshed.cursor.rest with
      | [] => refreshed.finish?
      | character :: rest =>
          let closed := refreshed.closeBlocks refreshed.cursor.column
          let next ← closed.stepToken? character rest
          run? fuel next

end Lexer

/-- The tokens of a text, unless it is malformed. -/
def tokens? (text : String) : Option (List Token) :=
  let characters := text.toList
  if characters.all isAllowed then
    Lexer.run? (characters.length + 2) { cursor := { rest := characters } }
  else none

end Yaml
end EntitySchema
