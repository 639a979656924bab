import EntitySchema.Number.Shortest

/-!
# JSON values

A value keeps the entries of its objects in the order in which they were written, repeated keys
included.  A literal can be well formed and still denote nothing, such as a number beyond every
representable one; such a literal is kept as an unreadable part, because a reader that skips it
never has to know.
-/

namespace EntitySchema

namespace Json

/-- What is wrong with the text of a document. -/
inductive TextFault
  | endOfList
  | endOfObject
  | endOfString
  | endOfValue
  | missingColon
  | missingListComma
  | missingObjectComma
  | unknownWord
  | missingValue
  | badEscape
  | badNumber
  | numberOutOfRange
  | controlCharacter
  | keyNotString
  | loneSurrogate
  | trailingComma
  | trailingText
  deriving DecidableEq, Repr

/-- The wording of a fault in the text of a document. -/
def TextFault.message : TextFault -> String
  | endOfList => "EOF while parsing a list"
  | endOfObject => "EOF while parsing an object"
  | endOfString => "EOF while parsing a string"
  | endOfValue => "EOF while parsing a value"
  | missingColon => "expected `:`"
  | missingListComma => "expected `,` or `]`"
  | missingObjectComma => "expected `,` or `\x7d`"
  | unknownWord => "expected ident"
  | missingValue => "expected value"
  | badEscape => "invalid escape"
  | badNumber => "invalid number"
  | numberOutOfRange => "number out of range"
  | controlCharacter => "control character (\\u0000-\\u001F) found while parsing a string"
  | keyNotString => "key must be a string"
  | loneSurrogate => "lone leading surrogate in hex escape"
  | trailingComma => "trailing comma"
  | trailingText => "trailing characters"

/-- A number of a document: a whole number that fits 64 bits, or a binary number. -/
inductive Number
  /-- A whole number from zero up. -/
  | natural (value : Nat)
  /-- The negation of a positive whole number. -/
  | negative (magnitude : Nat)
  /-- Any other number. -/
  | real (value : Binary64)
  deriving DecidableEq, Repr

end Json

/-- A JSON value. -/
inductive Json
  | null
  | bool (value : Bool)
  | number (value : Json.Number)
  | string (text : String)
  | array (items : List Json)
  | object (entries : List (String × Json))
  | unreadable (fault : Json.TextFault)
  deriving Repr

namespace Json

/-- A whole number as a value. -/
def nat (value : Nat) : Json := .number (.natural value)

mutual

/-- Whether a value can be read in full with at most the given nesting of arrays and objects. -/
def readableWithin : Nat -> Json -> Bool
  | _, .unreadable _ => false
  | 0, .array _ => false
  | 0, .object _ => false
  | depth + 1, .array items => itemsReadableWithin depth items
  | depth + 1, .object entries => entriesReadableWithin depth entries
  | _, _ => true

/-- Whether every item can be read in full. -/
def itemsReadableWithin : Nat -> List Json -> Bool
  | _, [] => true
  | depth, item :: rest => item.readableWithin depth && itemsReadableWithin depth rest

/-- Whether the value of every entry can be read in full. -/
def entriesReadableWithin : Nat -> List (String × Json) -> Bool
  | _, [] => true
  | depth, (_, value) :: rest => value.readableWithin depth && entriesReadableWithin depth rest

end

/-- The deepest nesting of a document that is read in full. -/
def nestingLimit : Nat := 127

/-- Whether a value is one that a reader without expectations can read in full. -/
def isReadable (value : Json) : Bool :=
  value.readableWithin nestingLimit

/-- The value of the first entry with the given key. -/
def get? (key : String) : Json -> Option Json
  | .object entries => entries.lookup key
  | _ => none

end Json
end EntitySchema
