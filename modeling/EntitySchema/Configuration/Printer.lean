import EntitySchema.Configuration.Choices
import EntitySchema.Configuration.Key
import EntitySchema.Yaml.ScalarText

/-!
# Writing a configuration

A configuration is written with all its options in the order of the keys.  Options that are absent
are left out.
-/

namespace EntitySchema
namespace Configuration

/-- The scalar that stands for a relation mode. -/
def scalarOfRelationMode : RelationMode -> LenientScalar
  | .disabled => .flag false
  | .enabled => .flag true
  | .default => .text "default"

/-- The scalar that stands for the value of an option, if the option is present. -/
def Key.write : (key : Key) -> key.Value -> Option LenientScalar
  | .relationMode, value => some (scalarOfRelationMode value)
  | .modelSuffix, value => some (.text value)
  | .modelCasing, value => some (.text (casingChoices.spelling value))
  | .useDecimalLibrary, value => some (.flag value)
  | .imports, value => value.map LenientScalar.text
  | .excludeJsonNull, value => some (.flag value)
  | .fileCasing, value => some (.text (casingChoices.spelling value))
  | .enumFile, value => value.map LenientScalar.text
  | .enumImport, value => value.map LenientScalar.text
  | .indentSize, value => some (.natural value)
  | .indentKind, value => some (.text (indentChoices.spelling value))
  | .singleQuote, value => some (.flag value)
  | .semicolons, value => some (.text (semicolonChoices.spelling value))
  | .trailingCommas, value => some (.flag value)
  | .ignoreRelationTypes, value => some (.flag value)
  | .dateTimeMode, value => some (.text (dateTimeChoices.spelling value))
  | .nullability, value => some (.text (nullabilityChoices.spelling value))

/-- The options that are present, each with its name and its scalar. -/
def entries (configuration : Configuration) : List (String × LenientScalar) :=
  Key.all.filterMap fun key =>
    (key.write (configuration.get key)).map fun scalar => (key.name, scalar)

/-- A scalar as a JSON value. -/
def scalarJson : LenientScalar -> Json
  | .flag value => .bool value
  | .natural value => .nat value
  | .text value => .string value

/-- A configuration as a JSON value. -/
def toJson (configuration : Configuration) : Json :=
  .object (configuration.entries.map fun entry => (entry.1, scalarJson entry.2))

/-- A scalar as the value of a YAML entry, with its line end. -/
def scalarYaml : LenientScalar -> String
  | .flag value => toString value ++ "\n"
  | .natural value => toString value ++ "\n"
  | .text value => Yaml.ScalarText.entryValue value

/-- A configuration as YAML text. -/
def toYaml (configuration : Configuration) : String :=
  String.join (configuration.entries.map fun entry => entry.1 ++ ": " ++ scalarYaml entry.2)

end Configuration
end EntitySchema
