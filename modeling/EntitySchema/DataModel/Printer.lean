import EntitySchema.DataModel
import EntitySchema.Json

/-!
# Writing a data model

A data model as the JSON value that reads back as the same model.  Documentation and stored names
that are absent are left out.
-/

namespace EntitySchema

/-- An entry for a text that may be absent. -/
def Json.optionalEntry (key : String) (text : Option String) : List (String × Json) :=
  match text with
  | some value => [(key, .string value)]
  | none => []

/-- A field as a JSON value. -/
def Field.toJson (field : Field) : Json :=
  .object
    ([ ("name", .string field.name),
       ("kind", .string field.kind.spelling),
       ("type", .string field.kind.typeName),
       ("isList", .bool field.isList),
       ("isRequired", .bool field.isRequired) ] ++
      Json.optionalEntry "documentation" field.documentation)

/-- An entity as a JSON value. -/
def Entity.toJson (entity : Entity) : Json :=
  .object
    ([ ("name", .string entity.name),
       ("fields", .array (entity.fields.map Field.toJson)) ] ++
      Json.optionalEntry "documentation" entity.documentation)

/-- A value of an enum as a JSON value. -/
def EnumValue.toJson (value : EnumValue) : Json :=
  .object (("name", .string value.name) :: Json.optionalEntry "dbName" value.storedName)

/-- An enum as a JSON value. -/
def Enumeration.toJson (enumeration : Enumeration) : Json :=
  .object
    ([ ("name", .string enumeration.name),
       ("values", .array (enumeration.values.map EnumValue.toJson)) ] ++
      Json.optionalEntry "documentation" enumeration.documentation)

/-- A data model as a JSON value. -/
def DataModel.toJson (model : DataModel) : Json :=
  .object
    [ ("models", .array (model.entities.map Entity.toJson)),
      ("enums", .array (model.enums.map Enumeration.toJson)) ]

end EntitySchema
