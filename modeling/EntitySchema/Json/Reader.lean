import EntitySchema.Json.Numeral

/-!
# Reading JSON text

The reader walks over the characters of a document.  What it reads is returned with the
characters that follow it.  Nesting costs at least one character a level, so the length of the
text bounds it.
-/

namespace EntitySchema
namespace Json
namespace Reader

/-- Whether a character separates tokens. -/
def isSeparator (character : Char) : Bool :=
  character = ' ' || character = '\n' || character = '\t' || character = '\r'

/-- Skip the characters that separate tokens. -/
def skipSeparators (text : List Char) : List Char :=
  text.dropWhile isSeparator

/-! ## Words and numerals -/

/-- Read the rest of a fixed word. -/
def readWord (value : Json) : List Char -> List Char -> Except TextFault (Json × List Char)
  | [], text => .ok (value, text)
  | _, [] => .error .endOfValue
  | expected :: word, character :: rest =>
      if character = expected then readWord value word rest else .error .unknownWord

/-- Read one or more digits. -/
def readDigits (text : List Char) : Except TextFault (List Char × List Char) :=
  match text.takeWhile Char.isDigit, text.dropWhile Char.isDigit with
  | [], [] => .error .endOfValue
  | [], _ => .error .badNumber
  | digits, rest => .ok (digits, rest)

/-- Read the digits before the point.  A zero may only stand alone. -/
def readWhole (text : List Char) : Except TextFault (List Char × List Char) := do
  let (digits, rest) ← readDigits text
  match digits with
  | '0' :: _ :: _ => .error .badNumber
  | _ => .ok (digits, rest)

/-- Read the point and the digits after it, if there is a point. -/
def readFraction : List Char -> Except TextFault (Option (List Char) × List Char)
  | '.' :: text => do
      let (digits, rest) ← readDigits text
      .ok (some digits, rest)
  | text => .ok (none, text)

/-- Read the sign of a power of ten; the result is true for a minus sign. -/
def readExponentSign : List Char -> Bool × List Char
  | '+' :: rest => (false, rest)
  | '-' :: rest => (true, rest)
  | text => (false, text)

/-- Read the power of ten, if there is one. -/
def readExponent (text : List Char) :
    Except TextFault ((Option (Bool × List Char)) × List Char) :=
  match text with
  | character :: following =>
      if character = 'e' || character = 'E' then do
        let (negative, unsigned) := readExponentSign following
        let (digits, rest) ← readDigits unsigned
        .ok (some (negative, digits), rest)
      else
        .ok (none, text)
  | [] => .ok (none, text)

/-- Read a numeral after its sign. -/
def readNumeral (negative : Bool) (text : List Char) : Except TextFault (Json × List Char) := do
  let (whole, afterWhole) ← readWhole text
  let (fraction, afterFraction) ← readFraction afterWhole
  let (exponent, rest) ← readExponent afterFraction
  .ok (ofNumeral { negative, whole, fraction, exponent }, rest)

/-! ## Strings -/

/-- The value of a hexadecimal digit. -/
def hexValue? (character : Char) : Option Nat :=
  if character.isDigit then some (character.toNat - '0'.toNat)
  else if 'a' <= character && character <= 'f' then some (character.toNat - 'a'.toNat + 10)
  else if 'A' <= character && character <= 'F' then some (character.toNat - 'A'.toNat + 10)
  else none

/-- Read the four hexadecimal digits of a code unit. -/
def readCodeUnit : List Char -> Except TextFault (Nat × List Char)
  | first :: second :: third :: fourth :: rest =>
      match hexValue? first, hexValue? second, hexValue? third, hexValue? fourth with
      | some a, some b, some c, some d => .ok (((a * 16 + b) * 16 + c) * 16 + d, rest)
      | _, _, _, _ => .error .badEscape
  | _ => .error .endOfString

/-- The code of a character that is escaped by one letter. -/
def shortEscape? : Char -> Option Nat
  | '"' => some 0x22
  | '\\' => some 0x5C
  | '/' => some 0x2F
  | 'b' => some 0x08
  | 'f' => some 0x0C
  | 'n' => some 0x0A
  | 'r' => some 0x0D
  | 't' => some 0x09
  | _ => none

/-- Read the codes of a string up to its closing quote.  Escaped codes may be halves of a
surrogate pair. -/
def readCodes : Nat -> List Nat -> List Char -> Except TextFault (List Nat × List Char)
  | 0, _, _ => .error .endOfString
  | _, _, [] => .error .endOfString
  | _, reversed, '"' :: rest => .ok (reversed.reverse, rest)
  | _, _, ['\\'] => .error .endOfString
  | fuel + 1, reversed, '\\' :: 'u' :: text =>
      match readCodeUnit text with
      | .error fault => .error fault
      | .ok (unit, rest) => readCodes fuel (unit :: reversed) rest
  | fuel + 1, reversed, '\\' :: letter :: rest =>
      match shortEscape? letter with
      | some code => readCodes fuel (code :: reversed) rest
      | none => .error .badEscape
  | fuel + 1, reversed, character :: rest =>
      if character.toNat < 0x20 then .error .controlCharacter
      else readCodes fuel (character.toNat :: reversed) rest

/-- Whether a code is the first half of a surrogate pair. -/
def isHighSurrogate (code : Nat) : Bool := 0xD800 <= code && code <= 0xDBFF

/-- Whether a code is the second half of a surrogate pair. -/
def isLowSurrogate (code : Nat) : Bool := 0xDC00 <= code && code <= 0xDFFF

/-- The characters that a list of codes spells, unless half of a surrogate pair stands alone. -/
def assemble? : List Nat -> Option (List Char)
  | [] => some []
  | [code] =>
      if isHighSurrogate code || isLowSurrogate code then none else some [Char.ofNat code]
  | code :: next :: rest =>
      if isHighSurrogate code then
        if isLowSurrogate next then
          (assemble? rest).map
            (Char.ofNat (0x10000 + (code - 0xD800) * 0x400 + (next - 0xDC00)) :: ·)
        else none
      else if isLowSurrogate code then none
      else (assemble? (next :: rest)).map (Char.ofNat code :: ·)

/-- Read a string after its opening quote; nothing is the string that spells no text. -/
def readString (text : List Char) : Except TextFault (Option String × List Char) := do
  let (codes, rest) ← readCodes (text.length + 1) [] text
  .ok ((assemble? codes).map String.ofList, rest)

/-! ## Values -/

/-- The value of a string that spells the given text, if it spells one. -/
def stringValue : Option String -> Json
  | some text => .string text
  | none => .unreadable .loneSurrogate

/-- The value of an object with the given reversed entries.  An object with a key that spells no
text is unreadable as a whole. -/
def objectValue (reversed : List (Option String × Json)) : Json :=
  match reversed.reverse.mapM fun entry => entry.1.map fun key => (key, entry.2) with
  | some entries => .object entries
  | none => .unreadable .loneSurrogate

/-- Read the key of an entry and the colon after it. -/
def readKey (text : List Char) : Except TextFault (Option String × List Char) :=
  match text with
  | '"' :: afterQuote => do
      let (key, afterKey) ← readString afterQuote
      match skipSeparators afterKey with
      | ':' :: rest => .ok (key, rest)
      | [] => .error .endOfObject
      | _ => .error .missingColon
  | '\x7d' :: _ => .error .trailingComma
  | [] => .error .endOfValue
  | _ => .error .keyNotString

mutual

/-- Read a value. -/
def readValue : Nat -> List Char -> Except TextFault (Json × List Char)
  | 0, _ => .error .endOfValue
  | fuel + 1, text =>
      match skipSeparators text with
      | [] => .error .endOfValue
      | 'n' :: rest => readWord .null ['u', 'l', 'l'] rest
      | 't' :: rest => readWord (.bool true) ['r', 'u', 'e'] rest
      | 'f' :: rest => readWord (.bool false) ['a', 'l', 's', 'e'] rest
      | '"' :: rest => (readString rest).map fun (text, rest) => (stringValue text, rest)
      | '-' :: rest => readNumeral true rest
      | '[' :: rest => readItems fuel true [] rest
      | '\x7b' :: rest => readEntries fuel true [] rest
      | character :: rest =>
          if character.isDigit then readNumeral false (character :: rest)
          else .error .missingValue

/-- Read the items of an array up to its closing bracket. -/
def readItems : Nat -> Bool -> List Json -> List Char -> Except TextFault (Json × List Char)
  | 0, _, _, _ => .error .endOfList
  | fuel + 1, first, reversed, text =>
      match skipSeparators text with
      | [] => .error .endOfList
      | ']' :: rest => .ok (.array reversed.reverse, rest)
      | ',' :: rest =>
          if first then .error .missingValue
          else
            match skipSeparators rest with
            | ']' :: _ => .error .trailingComma
            | [] => .error .endOfValue
            | itemText => readItem fuel reversed itemText
      | itemText =>
          if first then readItem fuel reversed itemText else .error .missingListComma

/-- Read one item of an array and the items after it. -/
def readItem : Nat -> List Json -> List Char -> Except TextFault (Json × List Char)
  | 0, _, _ => .error .endOfList
  | fuel + 1, reversed, text =>
      match readValue fuel text with
      | .error fault => .error fault
      | .ok (item, rest) => readItems fuel false (item :: reversed) rest

/-- Read the entries of an object up to its closing brace. -/
def readEntries :
    Nat -> Bool -> List (Option String × Json) -> List Char -> Except TextFault (Json × List Char)
  | 0, _, _, _ => .error .endOfObject
  | fuel + 1, first, reversed, text =>
      match skipSeparators text with
      | [] => .error .endOfObject
      | '\x7d' :: rest => .ok (objectValue reversed, rest)
      | ',' :: rest =>
          if first then .error .keyNotString
          else readEntry fuel reversed (skipSeparators rest)
      | entryText =>
          if first then readEntry fuel reversed entryText else .error .missingObjectComma

/-- Read one entry of an object and the entries after it. -/
def readEntry :
    Nat -> List (Option String × Json) -> List Char -> Except TextFault (Json × List Char)
  | 0, _, _ => .error .endOfObject
  | fuel + 1, reversed, text =>
      match readKey text with
      | .error fault => .error fault
      | .ok (key, valueText) =>
          match readValue fuel valueText with
          | .error fault => .error fault
          | .ok (value, rest) => readEntries fuel false ((key, value) :: reversed) rest

end

end Reader

/-- Read a document: one value with nothing but separators around it. -/
def read (text : String) : Except TextFault Json := do
  let characters := text.toList
  let (value, rest) ← Reader.readValue (3 * characters.length + 3) characters
  match Reader.skipSeparators rest with
  | [] => .ok value
  | _ => .error .trailingText

end Json
end EntitySchema
