import EntitySchema.Configuration.Choices
import EntitySchema.Configuration.Key
import EntitySchema.Document.Record
import EntitySchema.Json.Reader
import EntitySchema.Text.WhiteSpace
import EntitySchema.Yaml.Format

/-!
# Reading a configuration

Every option has a default, so a document names only what it changes.  Truth values and numbers
may also be spelled as texts, because some hosts know no other values.
-/

namespace EntitySchema
namespace Configuration

open Document (Fault NumeralFault)

/-- The wording of the refusal of a configuration. -/
def refusal (fault : Fault) : String :=
  "malformed configuration: " ++ fault.message

/-- The relation mode with the given spelling. -/
def relationModeOfText : String -> Except Fault RelationMode
  | "true" => .ok .enabled
  | "false" => .ok .disabled
  | "default" => .ok .default
  | other => .error (.badOption other "relationModel" "true, false, default")

/-- The relation mode that a scalar stands for. -/
def relationModeOfScalar : LenientScalar -> Except Fault RelationMode
  | .flag true => .ok .enabled
  | .flag false => .ok .disabled
  | .text text => relationModeOfText text
  | .natural value => relationModeOfText (toString value)

/-- The truth value that a scalar stands for. -/
def flagOfScalar : LenientScalar -> Except Fault Bool
  | .flag value => .ok value
  | .text "true" => .ok true
  | .text "false" => .ok false
  | .text other => .error (.notTruthText other)
  | .natural value => .error (.numberForTruth value)

/-- The value of digits that continue a value, as long as it fits 64 bits. -/
def naturalOfDigits (value : Nat) : List Char -> Except NumeralFault Nat
  | [] => .ok value
  | digit :: rest =>
      if !digit.isDigit then .error .notDigit
      else
        let extended := 10 * value + (digit.toNat - '0'.toNat)
        if extended < Nat.pow 2 64 then naturalOfDigits extended rest else .error .tooLarge

/-- The whole number that a text spells, perhaps after a plus sign. -/
def naturalOfText : List Char -> Except NumeralFault Nat
  | [] => .error .empty
  | ['+'] => .error .notDigit
  | '+' :: digits => naturalOfDigits 0 digits
  | digits => naturalOfDigits 0 digits

/-- The whole number that a scalar stands for. -/
def naturalOfScalar : LenientScalar -> Except Fault Nat
  | .natural value => .ok value
  | .text text => (naturalOfText (Text.trim text.toList)).mapError Fault.badNumeral
  | .flag value => .error (.truthForNumber value)

variable {V : Type} [DocumentFormat V]

/-- Read the relation mode. -/
def readRelationMode (value : V) : Except Fault RelationMode :=
  (DocumentFormat.lenient value).bind relationModeOfScalar

/-- Read a truth value that may be spelled as a text. -/
def readFlag (value : V) : Except Fault Bool :=
  (DocumentFormat.lenient value).bind flagOfScalar

/-- Read a whole number that may be spelled as a text. -/
def readNatural (value : V) : Except Fault Nat :=
  (DocumentFormat.lenient value).bind naturalOfScalar

/-- Read the value of an option. -/
def Key.read : (key : Key) -> V -> Except Fault key.Value
  | .relationMode => readRelationMode
  | .modelSuffix => DocumentFormat.text
  | .modelCasing => DocumentFormat.choice casingChoices.accept
  | .useDecimalLibrary => readFlag
  | .imports => DocumentFormat.optionalText
  | .excludeJsonNull => readFlag
  | .fileCasing => DocumentFormat.choice casingChoices.accept
  | .enumFile => DocumentFormat.optionalText
  | .enumImport => DocumentFormat.optionalText
  | .indentSize => readNatural
  | .indentKind => DocumentFormat.choice indentChoices.accept
  | .singleQuote => readFlag
  | .semicolons => DocumentFormat.choice semicolonChoices.accept
  | .trailingCommas => readFlag
  | .ignoreRelationTypes => readFlag
  | .dateTimeMode => DocumentFormat.choice dateTimeChoices.accept
  | .nullability => DocumentFormat.choice nullabilityChoices.accept

/-- A configuration that is being read, with the keys that were given. -/
structure Draft where
  /-- The configuration so far. -/
  configuration : Configuration := {}
  /-- The keys that were given. -/
  given : List Key := []

/-- The field of a configuration's record that a key names. -/
def Key.slot (key : Key) : Document.Slot V Draft where
  name := key.name
  isFilled draft := draft.given.contains key
  fill value draft := do
    let optionValue ← key.read value
    .ok { configuration := draft.configuration.set key optionValue, given := key :: draft.given }

/-- The record of a configuration; none of its fields is required. -/
def recordFormat : Document.RecordFormat V Draft where
  title := "Config"
  slots := Key.all.map Key.slot
  requiredCount := 0

/-- Read a configuration. -/
def ofDocument (value : V) : Except Fault Configuration :=
  (recordFormat.read {} value).map Draft.configuration

/-- Read a configuration from JSON text. -/
def ofJsonText (text : String) : Except Fault Configuration := do
  let value ← (Json.read text).mapError Fault.json
  ofDocument value

/-- Read a configuration from YAML text; a text of white space changes nothing. -/
def ofYamlText (text : String) : Except Fault Configuration :=
  if (Text.trim text.toList).isEmpty then .ok {}
  else (Yaml.read text).bind ofDocument

end Configuration
end EntitySchema
