import EntitySchema.DataModel

/-!
# References to missing parts

A field may name an entity or an enum that the data model does not declare.  The entity of such a
field has no module.
-/

namespace EntitySchema

/-- Something that a field names and the data model lacks. -/
inductive MissingReference
  | entity (name : String)
  | enumeration (name : String)
  deriving DecidableEq, Repr

/-- Why an entity has no module. -/
structure EntityFailure where
  /-- The entity. -/
  entity : String
  /-- Its first field that names something missing. -/
  field : String
  /-- What the field names. -/
  missing : MissingReference
  deriving DecidableEq, Repr

/-- A failure as it is reported. -/
def EntityFailure.message (failure : EntityFailure) : String :=
  "entity `" ++ failure.entity ++ "` field `" ++ failure.field ++
    (match failure.missing with
      | .entity name => "` relates to unknown entity `" ++ name ++ "`"
      | .enumeration name => "` uses unknown enum `" ++ name ++ "`")

/-- What a field names and the data model lacks. -/
def Field.missingReference? (model : DataModel) (field : Field) : Option MissingReference :=
  match field.kind with
  | .scalar _ => none
  | .enumeration name =>
      if (model.enumeration? name).isNone then some (.enumeration name) else none
  | .relation target =>
      if (model.entity? target).isNone then some (.entity target) else none

/-- The first field of an entity that names something missing. -/
def Entity.failure? (model : DataModel) (entity : Entity) : Option EntityFailure :=
  entity.fields.findSome? fun field =>
    (field.missingReference? model).map fun missing =>
      { entity := entity.name, field := field.name, missing := missing }

end EntitySchema
