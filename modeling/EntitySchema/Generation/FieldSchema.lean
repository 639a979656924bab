import EntitySchema.Code.Expression
import EntitySchema.DataModel
import EntitySchema.Documentation
import EntitySchema.SchemaNames

/-!
# Validators of fields

A field becomes a validator in fixed steps: an expression inferred from its kind, or the one that
its documentation puts in its place; the list call; the calls that its documentation appends; and
the call that admits missing values.  JSON fields never get the last call, because their helper
schema has a rule of its own for null.
-/

namespace EntitySchema

/-- The name of the helper schema of JSON fields. -/
def jsonSchemaName : String := "jsonSchema"

/-- The name of the helper schema of decimal fields. -/
def decimalSchemaName : String := "decimalSchema"

/-- The validator of types that have none of their own. -/
def unknownValidator : String := "z.unknown()"

/-- The call that admits missing values. -/
def NullabilityMode.modifier : NullabilityMode -> String
  | nullish => "nullish()"
  | nullable => "nullable()"

/-- The expression that validates a date and time. -/
def DateTimeMode.expression : DateTimeMode -> String
  | date => "z.date()"
  | union => "z.union([z.date(), z.string().datetime()])"
  | transform => "z.date().transform((v) => v.toISOString()).pipe(z.string().datetime())"

/-- The options that validators of fields depend on. -/
structure FieldOptions where
  /-- How dates are validated. -/
  dateTimeMode : DateTimeMode
  /-- What optional fields accept. -/
  nullability : NullabilityMode
  /-- Whether decimals are validated with the decimal library. -/
  useDecimalLibrary : Bool
  /-- How schemas are named. -/
  names : SchemaNames
  deriving DecidableEq, Repr

/-- The field options of a configuration. -/
def FieldOptions.ofConfiguration (configuration : Configuration) : FieldOptions where
  dateTimeMode := configuration.dateTimeMode
  nullability := configuration.nullability
  useDecimalLibrary := configuration.useDecimalLibrary
  names := .ofConfiguration configuration

/-- Which schema of its target a relation refers to. -/
inductive RelationSchema
  /-- The schema over the scalar fields. -/
  | base
  /-- The relation-aware schema. -/
  | related
  deriving DecidableEq, Repr

/-- The name of a schema of an entity. -/
def SchemaNames.schema (names : SchemaNames) : RelationSchema -> String -> String
  | .base => names.base
  | .related => names.related

/-- Whether a scalar type has a validator of its own. -/
def ScalarType.isMapped : ScalarType -> Bool
  | bytes | unsupported _ => false
  | string | int | bigInt | float | decimal | boolean | dateTime | json => true

/-- The expression that validates a scalar type. -/
def ScalarType.expression (options : FieldOptions) : ScalarType -> String
  | string => "z.string()"
  | int => "z.number().int()"
  | bigInt => "z.bigint()"
  | float => "z.number()"
  | decimal => if options.useDecimalLibrary then decimalSchemaName else "z.number()"
  | boolean => "z.boolean()"
  | dateTime => options.dateTimeMode.expression
  | json => jsonSchemaName
  | bytes | unsupported _ => unknownValidator

/-- The expression that is inferred from the kind of a field. -/
def FieldKind.expression (options : FieldOptions) (schema : RelationSchema) :
    FieldKind -> String
  | scalar type => type.expression options
  | enumeration name => "z.nativeEnum(" ++ name ++ ")"
  | relation target => options.names.schema schema target

namespace Field

/-- What the documentation of a field says. -/
def docs (field : Field) : Documentation :=
  .ofText? field.documentation

/-- The call that makes a field's validator accept a list. -/
def listModifiers (field : Field) : List String :=
  if field.isList then ["array()"] else []

/-- The call that makes a field's validator admit missing values. -/
def nullabilityModifiers (options : FieldOptions) (field : Field) : List String :=
  if !field.isRequired && field.kind != .scalar .json then [options.nullability.modifier] else []

/-- The validator of a field. -/
def validator (options : FieldOptions) (schema : RelationSchema) (field : Field) :
    Code.Validator where
  base := field.docs.replacement?.getD (field.kind.expression options schema)
  modifiers :=
    field.listModifiers ++ field.docs.appended ++ field.nullabilityModifiers options

/-- The entry of a field in an object schema. -/
def property (options : FieldOptions) (schema : RelationSchema) (field : Field) :
    Code.Property where
  docs := field.docs.commentBlock
  name := field.name
  value := field.validator options schema

/-- The scalar type of a field whose validator accepts anything because the type has none and the
documentation gives none. -/
def unmappedType? (field : Field) : Option ScalarType :=
  match field.kind with
  | .scalar type =>
      if !type.isMapped && field.docs.replacement?.isNone then some type else none
  | .enumeration _ | .relation _ => none

end Field
end EntitySchema
