import EntitySchema.Configuration

/-!
# Keys of a configuration

Every option has a key.  A key knows the name that documents use, the type of its value, and how
to look its value up in a configuration and change it there.
-/

namespace EntitySchema
namespace Configuration

/-- The options, in the order in which documents list them. -/
inductive Key
  | relationMode
  | modelSuffix
  | modelCasing
  | useDecimalLibrary
  | imports
  | excludeJsonNull
  | fileCasing
  | enumFile
  | enumImport
  | indentSize
  | indentKind
  | singleQuote
  | semicolons
  | trailingCommas
  | ignoreRelationTypes
  | dateTimeMode
  | nullability
  deriving DecidableEq, Repr

namespace Key

/-- All keys, in the order in which documents list them. -/
def all : List Key :=
  [relationMode, modelSuffix, modelCasing, useDecimalLibrary, imports, excludeJsonNull,
    fileCasing, enumFile, enumImport, indentSize, indentKind, singleQuote, semicolons,
    trailingCommas, ignoreRelationTypes, dateTimeMode, nullability]

/-- The name of an option in a document. -/
def name : Key -> String
  | relationMode => "relationModel"
  | modelSuffix => "modelSuffix"
  | modelCasing => "modelCase"
  | useDecimalLibrary => "useDecimalJs"
  | imports => "imports"
  | excludeJsonNull => "prismaJsonNullability"
  | fileCasing => "fileNameCase"
  | enumFile => "enumFile"
  | enumImport => "enumImport"
  | indentSize => "indentSize"
  | indentKind => "indentType"
  | singleQuote => "singleQuote"
  | semicolons => "semicolon"
  | trailingCommas => "trailingCommas"
  | ignoreRelationTypes => "ignoreRelationTypes"
  | dateTimeMode => "dateTimeSchema"
  | nullability => "nullableType"

/-- The type of the value of an option. -/
abbrev Value : Key -> Type
  | relationMode => RelationMode
  | modelSuffix => String
  | modelCasing => Casing
  | useDecimalLibrary => Bool
  | imports => Option String
  | excludeJsonNull => Bool
  | fileCasing => Casing
  | enumFile => Option String
  | enumImport => Option String
  | indentSize => Nat
  | indentKind => IndentKind
  | singleQuote => Bool
  | semicolons => SemicolonPolicy
  | trailingCommas => Bool
  | ignoreRelationTypes => Bool
  | dateTimeMode => DateTimeMode
  | nullability => NullabilityMode

end Key

/-- The value of an option. -/
def get (configuration : Configuration) : (key : Key) -> key.Value
  | .relationMode => configuration.relationMode
  | .modelSuffix => configuration.modelSuffix
  | .modelCasing => configuration.modelCasing
  | .useDecimalLibrary => configuration.useDecimalLibrary
  | .imports => configuration.imports
  | .excludeJsonNull => configuration.excludeJsonNull
  | .fileCasing => configuration.fileCasing
  | .enumFile => configuration.enumFile
  | .enumImport => configuration.enumImport
  | .indentSize => configuration.indentSize
  | .indentKind => configuration.indentKind
  | .singleQuote => configuration.singleQuote
  | .semicolons => configuration.semicolons
  | .trailingCommas => configuration.trailingCommas
  | .ignoreRelationTypes => configuration.ignoreRelationTypes
  | .dateTimeMode => configuration.dateTimeMode
  | .nullability => configuration.nullability

/-- The configuration with another value of an option. -/
def set (configuration : Configuration) : (key : Key) -> key.Value -> Configuration
  | .relationMode, value => { configuration with relationMode := value }
  | .modelSuffix, value => { configuration with modelSuffix := value }
  | .modelCasing, value => { configuration with modelCasing := value }
  | .useDecimalLibrary, value => { configuration with useDecimalLibrary := value }
  | .imports, value => { configuration with imports := value }
  | .excludeJsonNull, value => { configuration with excludeJsonNull := value }
  | .fileCasing, value => { configuration with fileCasing := value }
  | .enumFile, value => { configuration with enumFile := value }
  | .enumImport, value => { configuration with enumImport := value }
  | .indentSize, value => { configuration with indentSize := value }
  | .indentKind, value => { configuration with indentKind := value }
  | .singleQuote, value => { configuration with singleQuote := value }
  | .semicolons, value => { configuration with semicolons := value }
  | .trailingCommas, value => { configuration with trailingCommas := value }
  | .ignoreRelationTypes, value => { configuration with ignoreRelationTypes := value }
  | .dateTimeMode, value => { configuration with dateTimeMode := value }
  | .nullability, value => { configuration with nullability := value }

end Configuration
end EntitySchema
