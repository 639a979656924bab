import EntitySchema.Code.Module
import EntitySchema.Generation.FieldSchema

/-!
# Relation-aware schemas

An entity with relations gets two companion types, for what its relation-aware schema accepts and
for what it yields, and the schema itself.  The schema is evaluated at its first use, so entities
may refer to each other in cycles.
-/

namespace EntitySchema

/-- The type of a relation, from the companion type of its target. -/
def Field.companionType (field : Field) (companion : String) : String :=
  companion ++ (if field.isList then "[]" else "") ++ (if field.isRequired then "" else " | null")

/-- The entry of a relation in a companion type, if the field is a relation. -/
def Field.companionMember? (companion : String -> String) (field : Field) : Option Code.Member :=
  field.kind.relationTarget?.map fun target =>
    { name := field.name
      optional := !field.isRequired
      type := field.companionType (companion target) }

namespace Entity

/-- Whether an entity gets a relation-aware schema. -/
def hasRelatedSchema (configuration : Configuration) (entity : Entity) : Bool :=
  configuration.relationMode.isEnabled && entity.hasRelations

/-- A companion type of an entity: the type of its base schema and one entry for each relation. -/
def companionInterface (companion : String -> String) (base : String) (entity : Entity) :
    Code.Interface where
  name := companion entity.name
  bases := [base]
  members := entity.relationFields.filterMap (Field.companionMember? companion)

/-- The comment above a relation-aware schema. -/
def relatedSchemaComment (schema : String) : List String :=
  [ "/**",
    " * " ++ schema ++ " contains all relations on your model in addition to the scalars",
    " *",
    " * NOTE: Lazy required in case of potential circular dependencies within schema",
    " */" ]

/-- The relation-aware schema of an entity. -/
def relatedConstant (configuration : Configuration) (entity : Entity) : Code.Constant :=
  let options := FieldOptions.ofConfiguration configuration
  { exported := true
    name := options.names.related entity.name
    type :=
      some ("z.ZodSchema<" ++ SchemaNames.completeOutput entity.name ++ ", z.ZodTypeDef, " ++
        SchemaNames.completeInput entity.name ++ ">")
    value :=
      .lazy (.extend (options.names.base entity.name)
        (entity.relationFields.map (Field.property options .related))) }

/-- The companion types and the relation-aware schema of an entity. -/
def relationStatements (configuration : Configuration) (entity : Entity) : List Code.Statement :=
  let names := SchemaNames.ofConfiguration configuration
  let base := names.base entity.name
  [ .interface
      (entity.companionInterface SchemaNames.completeInput ("z.input<typeof " ++ base ++ ">")),
    .interface
      (entity.companionInterface SchemaNames.completeOutput ("z.infer<typeof " ++ base ++ ">")),
    .blockComment (relatedSchemaComment (names.related entity.name)) ] ++
  (if configuration.ignoreRelationTypes then [.lineComment ["@ts-ignore"]] else []) ++
  [.constant (entity.relatedConstant configuration)]

end Entity
end EntitySchema
