import EntitySchema.Document.Fault

/-!
# Documents

Configurations and data models are read from documents in two formats.  A format says how a value
presents itself to a reader that expects a text, a sequence, a record and so on; everything that
is read from a document is read through these expectations.
-/

namespace EntitySchema

/-- A scalar that may be given by value or spelled as a text. -/
inductive LenientScalar
  | flag (value : Bool)
  | natural (value : Nat)
  | text (value : String)
  deriving DecidableEq, Repr

/-- The body of a record: fields by name or fields by position. -/
inductive RecordBody (V : Type)
  | named (entries : List (String × V))
  | positional (items : List V)

/-- A document format with values of type `V`. -/
class DocumentFormat (V : Type) where
  /-- Read a text. -/
  text : V -> Except Document.Fault String
  /-- Read a text that may be absent. -/
  optionalText : V -> Except Document.Fault (Option String)
  /-- Read a truth value. -/
  flag : V -> Except Document.Fault Bool
  /-- Read a sequence. -/
  sequence : V -> Except Document.Fault (List V)
  /-- Read the body of a record with the given title. -/
  record : String -> V -> Except Document.Fault (RecordBody V)
  /-- Read a choice, given what the name of a choice stands for. -/
  choice : {α : Type} -> (String -> Except Document.Fault α) -> V -> Except Document.Fault α
  /-- Read a scalar that may be spelled as a text. -/
  lenient : V -> Except Document.Fault LenientScalar

namespace Json

/-- What a value is to a reader that expected something else. -/
def found : Json -> Except Document.Fault Document.Found
  | .null => .ok .null
  | .bool value => .ok (.flag value)
  | .number value => .ok (.number value)
  | .string text => .ok (.text text)
  | .array _ => .ok .sequence
  | .object _ => .ok .map
  | .unreadable fault => .error (.json fault)

/-- Refuse a value of another type than the expected one. -/
def refuse (value : Json) (expected : Document.Expectation) : Except Document.Fault α :=
  match value.found with
  | .ok found => .error (.wrongType found expected)
  | .error fault => .error fault

/-- Read a text. -/
def readText : Json -> Except Document.Fault String
  | .string text => .ok text
  | value => value.refuse .text

/-- Read a text; null stands for its absence. -/
def readOptionalText : Json -> Except Document.Fault (Option String)
  | .null => .ok none
  | value => value.readText.map some

/-- Read a truth value. -/
def readFlag : Json -> Except Document.Fault Bool
  | .bool value => .ok value
  | value => value.refuse .flag

/-- Read a sequence. -/
def readSequence : Json -> Except Document.Fault (List Json)
  | .array items => .ok items
  | value => value.refuse .sequence

/-- Read the body of a record, an object or an array. -/
def readRecordBody (title : String) : Json -> Except Document.Fault (RecordBody Json)
  | .object entries => .ok (.named entries)
  | .array items => .ok (.positional items)
  | value => value.refuse (.record title)

/-- Read a choice: its name, or an object that gives its name a null value. -/
def readChoice (accept : String -> Except Document.Fault α) : Json -> Except Document.Fault α
  | .string name => accept name
  | .object ((name, value) :: rest) => do
      let choice ← accept name
      match value, rest with
      | .null, [] => .ok choice
      | .null, _ => .error .noChoice
      | other, _ => other.refuse .nothing
  | .unreadable fault => .error (.json fault)
  | _ => .error .noChoice

/-- Read a truth value, a whole number from zero up or a text. -/
def readLenient : Json -> Except Document.Fault LenientScalar
  | .bool value => .ok (.flag value)
  | .number (.natural value) => .ok (.natural value)
  | .string text => .ok (.text text)
  | .unreadable fault => .error (.json fault)
  | _ => .error .notLenient

instance : DocumentFormat Json where
  text := readText
  optionalText := readOptionalText
  flag := readFlag
  sequence := readSequence
  record := readRecordBody
  choice := readChoice
  lenient := readLenient

end Json
end EntitySchema
