import EntitySchema.Yaml.Token

/-!
# Reading directives, anchors and tags

The parts of YAML text that say something about a document or a node without being part of its
content.
-/

namespace EntitySchema
namespace Yaml

/-- Read a name of word characters and return it with what follows. -/
def readWordName (cursor : Cursor) : List Char × Cursor :=
  let name := cursor.rest.takeWhile isWordCharacter
  (name, cursor.advance name.length)

/-! ## Tags -/

/-- Whether a character may occur in a tag; inside angle brackets a few more may. -/
def isTagCharacter (bracketed : Bool) (character : Char) : Bool :=
  isWordCharacter character || ";/?:@&=+$.!~*'()%".toList.contains character ||
    (bracketed && (character = ',' || character = '[' || character = ']'))

/-- The value of the two hexadecimal digits after a percent sign. -/
def percentByte? : List Char -> Option (UInt8 × List Char)
  | '%' :: high :: low :: rest => do
      let highValue ← hexDigit? high
      let lowValue ← hexDigit? low
      some ((16 * highValue + lowValue).toUInt8, rest)
  | _ => none

/-- The bytes that a text of tag characters spells. -/
def tagBytes? : Nat -> List Char -> Option (List UInt8)
  | _, [] => some []
  | 0, _ => none
  | fuel + 1, '%' :: rest => do
      let (byte, following) ← percentByte? ('%' :: rest)
      let bytes ← tagBytes? fuel following
      some (byte :: bytes)
  | fuel + 1, character :: rest => do
      let bytes ← tagBytes? fuel rest
      some (character.toNat.toUInt8 :: bytes)

/-- The text that tag characters spell, if they spell one. -/
def tagText? (characters : List Char) : Option String := do
  let bytes ← tagBytes? characters.length characters
  String.fromUTF8? (ByteArray.mk bytes.toArray)

/-- Read tag characters, of which there must be one unless others came before. -/
def readTagText? (bracketed : Bool) (before : List Char) (cursor : Cursor) :
    Option (String × Cursor) := do
  let characters := cursor.rest.takeWhile (isTagCharacter bracketed)
  if before.isEmpty && characters.isEmpty then none
  else
    let text ← tagText? (before.drop 1 ++ characters)
    some (text, cursor.advance characters.length)

/-- Read the exclamation mark at the start of a tag and the word after it, with a closing
exclamation mark if there is one. -/
def readTagHandle (cursor : Cursor) : List Char × Cursor :=
  let (name, afterName) := readWordName (cursor.advance 1)
  if afterName.sees (· == '!') then ('!' :: name ++ ['!'], afterName.advance 1)
  else ('!' :: name, afterName)

/-- Whether a text is a tag handle rather than the start of a tag. -/
def isTagHandle (text : List Char) : Bool :=
  1 < text.length && text.getLast? = some '!'

/-- Read a tag with a handle or without one. -/
def readShorthandTag? (cursor : Cursor) : Option (Token × Cursor) := do
  let (start, afterStart) := readTagHandle cursor
  if isTagHandle start then
    let (suffix, following) ← readTagText? false [] afterStart
    some (.tag (String.ofList start) suffix, following)
  else
    let (suffix, following) ← readTagText? false start afterStart
    if suffix.isEmpty then some (.tag "" "!", following)
    else some (.tag "!" suffix, following)

/-- Read a tag between angle brackets. -/
def readVerbatimTag? (cursor : Cursor) : Option (Token × Cursor) := do
  let (suffix, following) ← readTagText? true [] (cursor.advance 2)
  if following.sees (· == '>') then some (.tag "" suffix, following.advance 1) else none

/-- Read a tag.  It ends at spacing, or at a comma inside a flow collection. -/
def readTag? (inFlow : Bool) (cursor : Cursor) : Option (Token × Cursor) := do
  let (token, following) ←
    if ['!', '<'].isPrefixOf cursor.rest then readVerbatimTag? cursor
    else readShorthandTag? cursor
  if atSpacing following.rest || (inFlow && following.sees (· == ',')) then
    some (token, following)
  else none

/-! ## Anchors and aliases -/

/-- Read the name of an anchor or an alias after its first character. -/
def readAnchorName? (cursor : Cursor) : Option (String × Cursor) :=
  let (name, following) := readWordName (cursor.advance 1)
  let ends := atSpacing following.rest || following.sees fun character =>
    "?:,]\x7d%@`".toList.contains character
  if name.isEmpty || !ends then none else some (String.ofList name, following)

/-! ## Directives -/

/-- Read a part of a version number, of at most nine digits. -/
def readVersionPart? (cursor : Cursor) : Option (Nat × Cursor) :=
  let digits := cursor.rest.takeWhile Char.isDigit
  if digits.isEmpty || 9 < digits.length then none
  else
    some (digits.foldl (fun value digit => 10 * value + (digit.toNat - '0'.toNat)) 0,
      cursor.advance digits.length)

/-- Read the value of a version directive. -/
def readVersion? (cursor : Cursor) : Option (Token × Cursor) := do
  let (major, afterMajor) ← readVersionPart? (cursor.skipWhile isBlank)
  if !afterMajor.sees (· == '.') then none
  else
    let (minor, following) ← readVersionPart? (afterMajor.advance 1)
    some (.version major minor, following)

/-- Read the value of a directive for a tag handle. -/
def readTagDirective? (cursor : Cursor) : Option (Token × Cursor) := do
  let atHandle := cursor.skipWhile isBlank
  if !atHandle.sees (· == '!') then none
  else
    let (handle, afterHandle) := readTagHandle atHandle
    if !(isTagHandle handle || handle = ['!']) || !afterHandle.sees isBlank then none
    else
      let (meaning, following) ← readTagText? true [] (afterHandle.skipWhile isBlank)
      if atSpacing following.rest then
        some (.tagHandle (String.ofList handle) meaning, following)
      else none

/-- Read a directive and the rest of its line. -/
def readDirective? (cursor : Cursor) : Option (Token × Cursor) := do
  let (name, afterName) := readWordName (cursor.advance 1)
  if !atSpacing afterName.rest then none
  else
    let (token, afterValue) ←
      if name = "YAML".toList then readVersion? afterName
      else if name = "TAG".toList then readTagDirective? afterName
      else none
    let following ← afterValue.finishLine?
    some (token, following)

end Yaml
end EntitySchema
