import EntitySchema.Document
import EntitySchema.Yaml.Node
import EntitySchema.Yaml.PlainScalar

/-!
# YAML as a document format

What a scalar is depends on what the reader expects: where a text is expected every scalar is its
own text, and where the reader has no expectation a plain scalar is resolved.  A plain scalar
without text also stands for an empty sequence and for a record without fields.
-/

namespace EntitySchema
namespace Yaml

open Document (Fault)

/-- A node of a document, together with the document. -/
structure Value where
  /-- The document, which knows what aliases refer to. -/
  document : YamlDocument
  /-- The node. -/
  node : Node

namespace Value

/-- The same document at another node. -/
def moveTo (value : Value) (node : Node) : Value := { value with node }

/-- The node itself, or the node that it refers to as an alias. -/
def content (value : Value) : Node :=
  match value.node with
  | .alias slot => (value.document.nodeOf? slot).getD (.alias slot)
  | node => node

/-! ## Tags -/

/-- The full name of a standard tag. -/
def standardTag (name : String) : String := "tag:yaml.org,2002:" ++ name

/-- The choice that a tag names, which is a local tag with a name. -/
def choiceOfTag? (tag : Option String) : Option String :=
  tag.bind fun text =>
    match text.toList with
    | '!' :: character :: rest => some (String.ofList (character :: rest))
    | _ => none

/-! ## Scalars -/

/-- The truth value that a scalar's text spells. -/
def truth? (text : String) : Option Bool :=
  match PlainValue.ofText text with
  | .flag value => some value
  | _ => none

/-- Whether a scalar's text spells null; a text of length zero does not. -/
def spellsNull (text : String) : Bool :=
  !text.isEmpty && PlainValue.ofText text = .null

/-- The scalar for a whole number, which must fit 64 bits and not be negative. -/
def lenientWhole (value : Int) : Except Fault LenientScalar :=
  if 0 <= value && value.toNat < Nat.pow 2 64 then .ok (.natural value.toNat)
  else .error .notLenient

/-- The scalar that a plain text stands for. -/
def lenientPlain (text : String) : Except Fault LenientScalar :=
  match PlainValue.ofText text with
  | .flag value => .ok (.flag value)
  | .whole value => lenientWhole value
  | .ownText => .ok (.text text)
  | .null => .error .notLenient
  | .real => .error .notLenient

/-- The scalar that a tagged text stands for. -/
def lenientTagged (tag : String) (style : ScalarStyle) (text : String) :
    Except Fault LenientScalar :=
  if (choiceOfTag? (some tag)).isSome then .error .notLenient
  else if tag = standardTag "bool" then
    match truth? text with
    | some value => .ok (.flag value)
    | none => .error .notLenient
  else if tag = standardTag "int" then
    match PlainValue.whole? text.toList with
    | some value => lenientWhole value
    | none => .error .notLenient
  else if tag = standardTag "float" || tag = standardTag "null" then .error .notLenient
  else if tag = "!" && style = .plain then lenientPlain text
  else .ok (.text text)

/-- Read a scalar that may be spelled as a text. -/
def readLenient (value : Value) : Except Fault LenientScalar :=
  match value.content with
  | .scalar (some tag) style text => lenientTagged tag style text
  | .scalar none .plain text => lenientPlain text
  | .scalar none _ text => .ok (.text text)
  | _ => .error .notLenient

/-! ## Expectations -/

/-- Refuse a node of another kind than the expected one. -/
def refuse (node : Node) (expected : Document.Expectation) : Except Fault α :=
  match node with
  | .scalar _ _ text => .error (.wrongType (.text text) expected)
  | .sequence _ => .error (.wrongType .sequence expected)
  | .mapping _ => .error (.wrongType .map expected)
  | .alias _ => .error .yaml

/-- Read a text. -/
def readText (value : Value) : Except Fault String :=
  match value.content with
  | .scalar _ _ text => .ok text
  | node => refuse node .text

/-- Read a text that is absent where a plain scalar is empty or null. -/
def readOptionalText (value : Value) : Except Fault (Option String) :=
  match value.content with
  | .scalar none .plain text =>
      .ok (if text.isEmpty || spellsNull text then none else some text)
  | .scalar (some tag) .plain text =>
      if tag = standardTag "null" then
        if spellsNull text then .ok none else .error .yaml
      else .ok (some text)
  | .scalar _ _ text => .ok (some text)
  | node => refuse node .text

/-- Read a truth value. -/
def readFlag (value : Value) : Except Fault Bool :=
  match value.content with
  | .scalar tag style text =>
      if style = .plain || (style = .literal && tag = some (standardTag "bool")) then
        match truth? text with
        | some flag => .ok flag
        | none => refuse value.content .flag
      else refuse value.content .flag
  | node => refuse node .flag

/-- Whether a node is a plain scalar without text. -/
def isEmptyPlain : Node -> Bool
  | .scalar _ .plain text => text.isEmpty
  | _ => false

/-- Read a sequence. -/
def readSequence (value : Value) : Except Fault (List Value) :=
  match value.content with
  | .sequence items => .ok (items.map value.moveTo)
  | node => if isEmptyPlain node then .ok [] else refuse node .sequence

/-- Read the entries of a mapping with texts as keys. -/
def readEntries (value : Value) (entries : List (Node × Node)) :
    Except Fault (List (String × Value)) :=
  entries.mapM fun entry => do
    let key ← (value.moveTo entry.1).readText
    .ok (key, value.moveTo entry.2)

/-- Read the body of a record. -/
def readRecordBody (title : String) (value : Value) : Except Fault (RecordBody Value) :=
  match value.content with
  | .mapping entries => (value.readEntries entries).map RecordBody.named
  | node => if isEmptyPlain node then .ok (.named []) else refuse node (.record title)

/-- Read a choice: the text of a scalar, or the name of a local tag on a null scalar. -/
def readChoice (accept : String -> Except Fault α) (value : Value) : Except Fault α :=
  match value.content with
  | .scalar tag _ text =>
      match choiceOfTag? tag with
      | some name => do
          let choice ← accept name
          if text.isEmpty || spellsNull text then .ok choice
          else refuse value.content .nothing
      | none => accept text
  | _ => .error .noChoice

instance : DocumentFormat Value where
  text := readText
  optionalText := readOptionalText
  flag := readFlag
  sequence := readSequence
  record := readRecordBody
  choice := readChoice
  lenient := readLenient

end Value

/-- Read a text that holds at most one document. -/
def read (text : String) : Except Fault Value :=
  match YamlDocument.read? text with
  | some document => .ok { document, node := document.root.getD .empty }
  | none => .error .yaml

end Yaml
end EntitySchema
