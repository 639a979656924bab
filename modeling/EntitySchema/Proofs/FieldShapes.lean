import EntitySchema.Proofs.Outcomes

/-!
# Fields in schemas and companion types

The fields of an entity are divided between its base schema, which has the scalar fields, and the
extension of its relation-aware schema, which has the relations.  The companion types list the same
relations in the same order, so that the three can be read side by side.
-/

namespace EntitySchema

/-! ## Parts of a module -/

namespace Code

/-- The constant that a statement declares, if other modules see it. -/
def Statement.exportedConstant? : Statement -> Option Constant
  | constant declaration => if declaration.exported then some declaration else none
  | lineComment _ | blockComment _ | typeAlias _ _ _ | interface _ | exportAll _ => none

/-- The interface that a statement declares. -/
def Statement.interface? : Statement -> Option Interface
  | interface declaration => some declaration
  | lineComment _ | blockComment _ | typeAlias _ _ _ | constant _ | exportAll _ => none

theorem Statement.exportedConstant?_eq_none
    (statement : Statement)
    (hidden : statement.exportedName? = none) :
    statement.exportedConstant? = none := by
  cases statement with
  | constant declaration => simpa [exportedName?, exportedConstant?] using hidden
  | lineComment | blockComment | typeAlias | interface | exportAll => rfl

theorem Statement.interface?_eq_none
    (statement : Statement)
    (hidden : statement.exportedName? = none) :
    statement.interface? = none := by
  cases statement with
  | interface declaration => cases hidden
  | lineComment | blockComment | typeAlias | constant | exportAll => rfl

namespace Module

/-- The constants of a module that other modules see. -/
def exportedConstants (unit : Module) : List Constant :=
  unit.statements.filterMap Statement.exportedConstant?

/-- The interfaces of a module. -/
def interfaces (unit : Module) : List Interface :=
  unit.statements.filterMap Statement.interface?

end Module
end Code

namespace EntityModule

variable
  {configuration : Configuration}
  {layout : FileLayout}
  {entity : Entity}

theorem relationStatements_exportedConstants :
    (entity.relationStatements configuration).filterMap Code.Statement.exportedConstant? =
      [entity.relatedConstant configuration] := by
  rw [Entity.relationStatements]
  cases configuration.ignoreRelationTypes <;> rfl

theorem relationStatements_interfaces
    (configuration : Configuration)
    (entity : Entity) :
    ∃ inputBase outputBase,
      (entity.relationStatements configuration).filterMap Code.Statement.interface? =
        [ entity.companionInterface SchemaNames.completeInput inputBase,
          entity.companionInterface SchemaNames.completeOutput outputBase ] := by
  rw [Entity.relationStatements]
  cases configuration.ignoreRelationTypes <;> exact ⟨_, _, rfl⟩

/-- A module exports the base schema and, where relations are followed, the relation-aware one. -/
theorem exportedConstants_unchecked :
    (unchecked configuration layout entity).exportedConstants =
      baseConstant configuration entity ::
        if entity.hasRelatedSchema configuration then [entity.relatedConstant configuration]
        else [] := by
  rw [Code.Module.exportedConstants,
    filterMap_statements Code.Statement.exportedConstant?_eq_none, List.filterMap_append]
  simp only [stageStatements]
  split_ifs with related
  · rw [relationStatements_exportedConstants]
    rfl
  · rfl

/-- The interfaces of a module are those of its relation stage. -/
theorem interfaces_unchecked :
    (unchecked configuration layout entity).interfaces =
      if entity.hasRelatedSchema configuration then
        (entity.relationStatements configuration).filterMap Code.Statement.interface?
      else [] := by
  rw [Code.Module.interfaces, filterMap_statements Code.Statement.interface?_eq_none,
    List.filterMap_append]
  simp only [stageStatements]
  split_ifs <;> rfl

end EntityModule

/-! ## Relations side by side -/

namespace Field

/-- The entry of a relation in a companion type, where `companion` names the companion type of an
entity: a list has brackets, and an optional relation may be absent or null. -/
structure HasMember (companion : String -> String) (field : Field) (target : String)
    (member : Code.Member) : Prop where
  kind : field.kind = .relation target
  name : member.name = field.name
  optional : member.optional = !field.isRequired
  type : member.type =
    companion target ++ (if field.isList then "[]" else "") ++
      (if field.isRequired then "" else " | null")

/-- The entry of a relation in the extension of a schema: the list call, the calls of its
documentation and the call that admits missing values follow each other. -/
structure HasExtension (nullability : NullabilityMode) (field : Field)
    (property : Code.Property) : Prop where
  name : property.name = field.name
  modifiers : property.value.modifiers =
    (if field.isList then ["array()"] else []) ++ field.docs.appended ++
      (if field.isRequired then [] else [nullability.modifier])

theorem isRelation_iff
    {field : Field} :
    field.isRelation ↔ ∃ target, field.kind = .relation target := by
  rw [isRelation]
  cases field.kind <;> simp [FieldKind.isRelation]

theorem isSome_companionMember?
    (companion : String -> String)
    (field : Field) :
    (field.companionMember? companion).isSome = field.isRelation := by
  rw [companionMember?, isRelation]
  cases field.kind <;> rfl

theorem exists_hasMember
    {companion : String -> String}
    {field : Field}
    {member : Code.Member}
    (found : field.companionMember? companion = some member) :
    ∃ target, field.HasMember companion target member := by
  rw [companionMember?, Option.map_eq_some_iff] at found
  obtain ⟨target, named, rfl⟩ := found
  refine ⟨target, ?_, rfl, rfl, rfl⟩
  cases shape : field.kind with
  | relation other =>
      rw [shape] at named
      rw [Option.some.inj named]
  | scalar type => simp [shape, FieldKind.relationTarget?] at named
  | enumeration name => simp [shape, FieldKind.relationTarget?] at named

/-- A relation is never a JSON field, so an optional one always admits missing values. -/
theorem hasExtension_property
    {field : Field}
    (relation : field.isRelation)
    (configuration : Configuration) :
    field.HasExtension configuration.nullability
      (field.property (.ofConfiguration configuration) .related) := by
  obtain ⟨target, kind⟩ := isRelation_iff.mp relation
  refine ⟨rfl, ?_⟩
  have optional : field.nullabilityModifiers (.ofConfiguration configuration) =
      if field.isRequired then [] else [configuration.nullability.modifier] := by
    rw [nullabilityModifiers, kind]
    cases field.isRequired <;> rfl
  rw [property, validator, optional]
  rfl

end Field

namespace Entity

variable
  {configuration : Configuration}
  {entity : Entity}

/-- A companion type has one entry for each relation, in the order of the relations. -/
theorem forall₂_companionMembers
    (companion : String -> String)
    (base : String) :
    List.Forall₂ (fun field member => ∃ target, field.HasMember companion target member)
      entity.relationFields (entity.companionInterface companion base).members := by
  have listed := List.forall₂_filter_filterMap (Field.companionMember? companion)
    entity.relationFields
  have everyRelation : entity.relationFields.filter
      (fun field => (field.companionMember? companion).isSome) = entity.relationFields := by
    rw [List.filter_eq_self]
    intro field member
    rw [Field.isSome_companionMember?]
    exact (List.mem_filter.mp member).2
  rw [everyRelation] at listed
  exact listed.imp fun _ _ => Field.exists_hasMember

/-- The extension has one entry for each relation, in the order of the relations. -/
theorem forall₂_extension :
    List.Forall₂ (Field.HasExtension configuration.nullability) entity.relationFields
      (entity.relationFields.map (Field.property (.ofConfiguration configuration) .related)) := by
  rw [List.forall₂_map_right_iff, List.forall₂_same]
  intro field member
  exact Field.hasExtension_property (List.mem_filter.mp member).2 configuration

/-- Scalar fields and relations together are all fields. -/
theorem fields_perm : (entity.scalarFields ++ entity.relationFields).Perm entity.fields := by
  have divided := List.filter_append_perm Field.isRelation entity.fields
  exact List.perm_append_comm.trans divided

end Entity

namespace EntityModule

/-- Every field of an entity that compiles has its place.  Where relations are followed, the base
schema has the scalar fields, and companion types and extension have the relations, all in the order
of their declaration; so base schema and extension together have every field once.  The entries of
one relation have the same name and shape in all three.  Where relations are not followed, there is
nothing but the base schema. -/
theorem fields_in_place
    (configuration : Configuration)
    (layout : FileLayout)
    (model : DataModel)
    (entity : Entity)
    (unit : Code.Module)
    (compiled : ofEntity configuration layout model entity = .ok unit) :
    (configuration.relationMode.isEnabled → entity.hasRelations →
      ∃ base related input output properties extension,
        unit.exportedConstants = [base, related] ∧ unit.interfaces = [input, output] ∧
        base.name = (SchemaNames.ofConfiguration configuration).base entity.name ∧
        related.name = (SchemaNames.ofConfiguration configuration).related entity.name ∧
        input.name = SchemaNames.completeInput entity.name ∧
        output.name = SchemaNames.completeOutput entity.name ∧
        base.value = .object properties ∧
        related.value = .lazy (.extend base.name extension) ∧
        properties.map Code.Property.name =
          (entity.fields.filter fun field => !field.isRelation).map Field.name ∧
        List.Forall₂
          (fun field member => ∃ target, field.HasMember SchemaNames.completeInput target member)
          (entity.fields.filter Field.isRelation) input.members ∧
        List.Forall₂
          (fun field member => ∃ target, field.HasMember SchemaNames.completeOutput target member)
          (entity.fields.filter Field.isRelation) output.members ∧
        List.Forall₂ (Field.HasExtension configuration.nullability)
          (entity.fields.filter Field.isRelation) extension ∧
        ((properties ++ extension).map Code.Property.name).Perm (entity.fields.map Field.name)) ∧
    (configuration.relationMode = .disabled →
      ∃ base properties,
        unit.exportedConstants = [base] ∧ unit.interfaces = [] ∧
        base.name = (SchemaNames.ofConfiguration configuration).base entity.name ∧
        base.value = .object properties ∧
        properties.map Code.Property.name =
          (entity.fields.filter fun field => !field.isRelation).map Field.name) := by
  obtain ⟨-, rfl⟩ := ofEntity_eq_ok_iff.mp compiled
  have names (schema : RelationSchema) (fields : List Field) :
      (fields.map (Field.property (.ofConfiguration configuration) schema)).map
        Code.Property.name = fields.map Field.name := by
    rw [List.map_map]
    rfl
  refine ⟨fun enabled relations => ?_, fun disabled => ?_⟩
  · have followed : entity.hasRelatedSchema configuration = true := by
      rw [Entity.hasRelatedSchema, enabled, relations]
      rfl
    obtain ⟨inputBase, outputBase, interfaces⟩ :=
      relationStatements_interfaces configuration entity
    rw [exportedConstants_unchecked, interfaces_unchecked, if_pos followed, if_pos followed,
      interfaces]
    refine ⟨_, _, _, _, _, _, rfl, rfl, rfl, rfl, rfl, rfl, rfl, rfl, names _ _,
      entity.forall₂_companionMembers _ _, entity.forall₂_companionMembers _ _,
      entity.forall₂_extension, ?_⟩
    rw [List.map_append, names, names, ← List.map_append]
    exact entity.fields_perm.map Field.name
  · have alone : entity.hasRelatedSchema configuration = false := by
      rw [Entity.hasRelatedSchema, disabled]
      rfl
    rw [exportedConstants_unchecked, interfaces_unchecked, alone]
    exact ⟨_, _, rfl, rfl, rfl, rfl, names _ _⟩

/-- Comments with answers, an author and attached data. -/
def comment : Entity where
  name := "Comment"
  fields :=
    [ { name := "parent", kind := .relation "Comment", isRequired := false },
      { name := "payload", kind := .scalar .json, isRequired := false },
      { name := "answers", kind := .relation "Comment", isList := true, isRequired := false,
        documentation := some "Newest first.\n@zod.custom(z.any()).max(9)\n@zod.min(1)" },
      { name := "mood", kind := .enumeration "Mood" },
      { name := "author", kind := .relation "User" } ]

/-- A data model with comments. -/
def forum : DataModel where
  entities := [comment, { name := "User", fields := [] }]
  enums := [{ name := "Mood", values := [{ name := "CALM" }] }]

/-- A place for the modules of a forum. -/
def forumLayout : FileLayout where
  schema := "schema"
  output := "zod"
  client := "client"

/-- Comments with the relation-aware schema under the plain name. -/
def forumConfiguration : Configuration := { relationMode := .default, nullability := .nullable }

theorem fields_in_place_comment :
    ∃ unit,
      ofEntity forumConfiguration forumLayout forum comment = .ok unit ∧
      ∃ base related input output properties extension,
        unit.exportedConstants = [base, related] ∧ unit.interfaces = [input, output] ∧
        base.value = .object properties ∧
        related.value = .lazy (.extend "_CommentModel" extension) ∧
        properties.map Code.Property.name = ["payload", "mood"] ∧
        List.Forall₂
          (fun field member => ∃ target, field.HasMember SchemaNames.completeInput target member)
          comment.relationFields input.members ∧
        List.Forall₂ (Field.HasExtension .nullable) comment.relationFields extension ∧
        ((properties ++ extension).map Code.Property.name).Perm
          ["parent", "payload", "answers", "mood", "author"] := by
  have compiled : ofEntity forumConfiguration forumLayout forum comment =
      .ok (unchecked forumConfiguration forumLayout comment) :=
    ofEntity_eq_ok_iff.mpr ⟨by decide, rfl⟩
  obtain ⟨base, related, input, output, properties, extension, constants, interfaces, baseName, -,
      -, -, object, lazy, names, inputs, -, extensions, perm⟩ :=
    (fields_in_place _ _ _ _ _ compiled).1 rfl rfl
  rw [baseName] at lazy
  exact ⟨_, compiled, base, related, input, output, properties, extension, constants, interfaces,
    object, lazy, names, inputs, extensions, perm⟩

end EntityModule
end EntitySchema
