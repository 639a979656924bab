import EntitySchema.Text.NameSet

/-!
# Data models

A data model declares entities with fields, and enums.  A field holds a scalar, a value of an enum,
or a relation to an entity; relations may form cycles and may lead back to their own entity.
-/

namespace EntitySchema

/-- The type of a scalar field. -/
inductive ScalarType
  | string
  | int
  | bigInt
  | float
  | decimal
  | boolean
  | dateTime
  | json
  | bytes
  /-- A type of the data store that has no validator. -/
  | unsupported (name : String)
  deriving DecidableEq, Repr

namespace ScalarType

/-- The scalar types that have a name of their own. -/
def supported : List ScalarType :=
  [string, int, bigInt, float, decimal, boolean, dateTime, json, bytes]

/-- The name of a scalar type. -/
def name : ScalarType -> String
  | string => "String"
  | int => "Int"
  | bigInt => "BigInt"
  | float => "Float"
  | decimal => "Decimal"
  | boolean => "Boolean"
  | dateTime => "DateTime"
  | json => "Json"
  | bytes => "Bytes"
  | unsupported name => name

/-- The scalar type with the given name, supported or not. -/
def ofName (name : String) : ScalarType :=
  (supported.find? fun scalar => scalar.name == name).getD (unsupported name)

end ScalarType

/-- What a field holds. -/
inductive FieldKind
  | scalar (type : ScalarType)
  | enumeration (name : String)
  | relation (target : String)
  deriving DecidableEq, Repr

namespace FieldKind

/-- The name of the type that a field holds. -/
def typeName : FieldKind -> String
  | scalar type => type.name
  | enumeration name => name
  | relation target => target

/-- How a kind is spelled in a document. -/
def spelling : FieldKind -> String
  | scalar (.unsupported _) => "unsupported"
  | scalar _ => "scalar"
  | enumeration _ => "enum"
  | relation _ => "object"

/-- The kind with the given spelling and type name. -/
def ofSpelling? (spelling typeName : String) : Option FieldKind :=
  if spelling = "scalar" then some (scalar (.ofName typeName))
  else if spelling = "unsupported" then some (scalar (.unsupported typeName))
  else if spelling = "enum" then some (enumeration typeName)
  else if spelling = "object" then some (relation typeName)
  else none

/-- Whether a kind is a scalar of a type that has no validator. -/
def isUnsupported : FieldKind -> Bool
  | scalar (.unsupported _) => true
  | _ => false

/-- Whether a kind is a relation. -/
def isRelation : FieldKind -> Bool
  | relation _ => true
  | _ => false

/-- The entity that a relation leads to. -/
def relationTarget? : FieldKind -> Option String
  | relation target => some target
  | _ => none

/-- The enum that a kind names. -/
def enumName? : FieldKind -> Option String
  | enumeration name => some name
  | _ => none

end FieldKind

/-- A field of an entity. -/
structure Field where
  /-- The name of the field. -/
  name : String
  /-- What the field holds. -/
  kind : FieldKind
  /-- Whether it holds a list. -/
  isList : Bool := false
  /-- Whether it always has a value. -/
  isRequired : Bool := true
  /-- What the data model says about it. -/
  documentation : Option String := none
  deriving DecidableEq, Repr

namespace Field

/-- The field, holding a list. -/
def asList (field : Field) : Field := { field with isList := true }

/-- The field, with values that may be missing. -/
def asOptional (field : Field) : Field := { field with isRequired := false }

/-- The field with other documentation. -/
def documented (field : Field) (documentation : String) : Field :=
  { field with documentation := some documentation }

/-- Whether the field is a relation. -/
def isRelation (field : Field) : Bool := field.kind.isRelation

end Field

/-- An entity of a data model. -/
structure Entity where
  /-- The name of the entity. -/
  name : String
  /-- Its fields in the order of their declaration. -/
  fields : List Field
  /-- What the data model says about it. -/
  documentation : Option String := none
  deriving DecidableEq, Repr

namespace Entity

/-- The fields that are not relations. -/
def scalarFields (entity : Entity) : List Field :=
  entity.fields.filter fun field => !field.isRelation

/-- The fields that are relations. -/
def relationFields (entity : Entity) : List Field :=
  entity.fields.filter Field.isRelation

/-- Whether the entity has a relation. -/
def hasRelations (entity : Entity) : Bool :=
  entity.fields.any Field.isRelation

/-- Whether a field of the entity holds the given scalar type. -/
def usesScalar (entity : Entity) (type : ScalarType) : Bool :=
  entity.fields.any fun field => field.kind = .scalar type

/-- The enums that the fields name. -/
def enumNames (entity : Entity) : List String :=
  Text.nameSet (entity.fields.filterMap fun field => field.kind.enumName?)

/-- The entities other than this one that relations lead to. -/
def foreignTargets (entity : Entity) : List String :=
  Text.nameSet
    ((entity.fields.filterMap fun field => field.kind.relationTarget?).filter fun target =>
      target != entity.name)

end Entity

/-- A value of an enum. -/
structure EnumValue where
  /-- The name of the value. -/
  name : String
  /-- The text that the data store holds for it, where that is not the name. -/
  storedName : Option String := none
  deriving DecidableEq, Repr

/-- The text that the data store holds for a value. -/
def EnumValue.wireText (value : EnumValue) : String :=
  value.storedName.getD value.name

/-- An enum of a data model. -/
structure Enumeration where
  /-- The name of the enum. -/
  name : String
  /-- Its values in the order of their declaration. -/
  values : List EnumValue
  /-- What the data model says about it. -/
  documentation : Option String := none
  deriving DecidableEq, Repr

/-- A data model. -/
structure DataModel where
  /-- The entities in the order of their declaration. -/
  entities : List Entity
  /-- The enums in the order of their declaration. -/
  enums : List Enumeration := []
  deriving DecidableEq, Repr

namespace DataModel

/-- The first entity with the given name. -/
def entity? (model : DataModel) (name : String) : Option Entity :=
  model.entities.find? fun entity => entity.name == name

/-- The first enum with the given name. -/
def enumeration? (model : DataModel) (name : String) : Option Enumeration :=
  model.enums.find? fun enumeration => enumeration.name == name

/-- The first name of a list that occurs before in it. -/
def repeatedName? (seen : List String) : List String -> Option String
  | [] => none
  | name :: rest =>
      if seen.contains name then some name else repeatedName? (name :: seen) rest

end DataModel
end EntitySchema
