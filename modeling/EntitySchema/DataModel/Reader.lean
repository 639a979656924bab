import EntitySchema.DataModel
import EntitySchema.Document.Record
import EntitySchema.Json.Reader
import EntitySchema.Yaml.Format

/-!
# Reading a data model

Entities and enums are read from a document, and then their names are checked: no two entities and
no two enums may share one.
-/

namespace EntitySchema

open Document (Fault Slot RecordFormat)

/-- Why a data model is refused. -/
inductive ModelError
  | document (fault : Fault)
  | repeatedEntity (name : String)
  | repeatedEnum (name : String)
  deriving DecidableEq, Repr

/-- The wording of a refusal's cause. -/
def ModelError.detail : ModelError -> String
  | document fault => fault.message
  | repeatedEntity name => "duplicate entity name `" ++ name ++ "`"
  | repeatedEnum name => "duplicate enum name `" ++ name ++ "`"

/-- The wording of a refusal. -/
def ModelError.message : ModelError -> String
  | document fault => "serialization error: " ++ fault.message
  | error => "model error: " ++ error.detail

namespace DataModel

variable {V : Type} [DocumentFormat V]

/-- Read every item of a sequence. -/
def readAll (readItem : V -> Except Fault α) (value : V) : Except Fault (List α) := do
  let items ← DocumentFormat.sequence value
  items.mapM readItem

/-! ## Fields -/

/-- A field that is being read. -/
structure FieldDraft where
  name : Option String := none
  kind : Option String := none
  typeName : Option String := none
  isList : Option Bool := none
  isRequired : Option Bool := none
  documentation : Option (Option String) := none

/-- The record of a field. -/
def fieldFormat : RecordFormat V FieldDraft where
  title := "RawField"
  requiredCount := 3
  slots :=
    [ { name := "name"
        isFilled := fun draft => draft.name.isSome
        fill := fun value draft => do
          let name ← DocumentFormat.text value
          .ok { draft with name := some name } },
      { name := "kind"
        isFilled := fun draft => draft.kind.isSome
        fill := fun value draft => do
          let kind ← DocumentFormat.text value
          .ok { draft with kind := some kind } },
      { name := "type"
        isFilled := fun draft => draft.typeName.isSome
        fill := fun value draft => do
          let typeName ← DocumentFormat.text value
          .ok { draft with typeName := some typeName } },
      { name := "isList"
        isFilled := fun draft => draft.isList.isSome
        fill := fun value draft => do
          let isList ← DocumentFormat.flag value
          .ok { draft with isList := some isList } },
      { name := "isRequired"
        isFilled := fun draft => draft.isRequired.isSome
        fill := fun value draft => do
          let isRequired ← DocumentFormat.flag value
          .ok { draft with isRequired := some isRequired } },
      { name := "documentation"
        isFilled := fun draft => draft.documentation.isSome
        fill := fun value draft => do
          let documentation ← DocumentFormat.optionalText value
          .ok { draft with documentation := some documentation } } ]

/-- The field of a finished draft, whose kind must be a known one. -/
def FieldDraft.finish (draft : FieldDraft) : Except Fault Field :=
  let name := draft.name.getD ""
  let spelling := draft.kind.getD ""
  match FieldKind.ofSpelling? spelling (draft.typeName.getD "") with
  | none => .error (.unknownKind name spelling)
  | some kind =>
      .ok
        { name
          kind
          isList := draft.isList.getD false
          isRequired := draft.isRequired.getD true
          documentation := draft.documentation.getD none }

/-- Read a field. -/
def readField (value : V) : Except Fault Field :=
  (fieldFormat.read {} value).bind FieldDraft.finish

/-! ## Entities -/

/-- An entity that is being read. -/
structure EntityDraft where
  name : Option String := none
  fields : Option (List Field) := none
  documentation : Option (Option String) := none

/-- The record of an entity. -/
def entityFormat : RecordFormat V EntityDraft where
  title := "Entity"
  requiredCount := 2
  slots :=
    [ { name := "name"
        isFilled := fun draft => draft.name.isSome
        fill := fun value draft => do
          let name ← DocumentFormat.text value
          .ok { draft with name := some name } },
      { name := "fields"
        isFilled := fun draft => draft.fields.isSome
        fill := fun value draft => do
          let fields ← readAll readField value
          .ok { draft with fields := some fields } },
      { name := "documentation"
        isFilled := fun draft => draft.documentation.isSome
        fill := fun value draft => do
          let documentation ← DocumentFormat.optionalText value
          .ok { draft with documentation := some documentation } } ]

/-- The entity of a finished draft. -/
def EntityDraft.finish (draft : EntityDraft) : Entity :=
  { name := draft.name.getD ""
    fields := draft.fields.getD []
    documentation := draft.documentation.getD none }

/-- Read an entity. -/
def readEntity (value : V) : Except Fault Entity :=
  (entityFormat.read {} value).map EntityDraft.finish

/-! ## Enums -/

/-- A value of an enum that is being read. -/
structure EnumValueDraft where
  name : Option String := none
  storedName : Option (Option String) := none

/-- The record of a value of an enum. -/
def enumValueFormat : RecordFormat V EnumValueDraft where
  title := "EnumValue"
  requiredCount := 1
  slots :=
    [ { name := "name"
        isFilled := fun draft => draft.name.isSome
        fill := fun value draft => do
          let name ← DocumentFormat.text value
          .ok { draft with name := some name } },
      { name := "dbName"
        isFilled := fun draft => draft.storedName.isSome
        fill := fun value draft => do
          let storedName ← DocumentFormat.optionalText value
          .ok { draft with storedName := some storedName } } ]

/-- The value of a finished draft. -/
def EnumValueDraft.finish (draft : EnumValueDraft) : EnumValue :=
  { name := draft.name.getD "", storedName := draft.storedName.getD none }

/-- Read a value of an enum. -/
def readEnumValue (value : V) : Except Fault EnumValue :=
  (enumValueFormat.read {} value).map EnumValueDraft.finish

/-- An enum that is being read. -/
structure EnumerationDraft where
  name : Option String := none
  values : Option (List EnumValue) := none
  documentation : Option (Option String) := none

/-- The record of an enum. -/
def enumerationFormat : RecordFormat V EnumerationDraft where
  title := "Enum"
  requiredCount := 2
  slots :=
    [ { name := "name"
        isFilled := fun draft => draft.name.isSome
        fill := fun value draft => do
          let name ← DocumentFormat.text value
          .ok { draft with name := some name } },
      { name := "values"
        isFilled := fun draft => draft.values.isSome
        fill := fun value draft => do
          let values ← readAll readEnumValue value
          .ok { draft with values := some values } },
      { name := "documentation"
        isFilled := fun draft => draft.documentation.isSome
        fill := fun value draft => do
          let documentation ← DocumentFormat.optionalText value
          .ok { draft with documentation := some documentation } } ]

/-- The enum of a finished draft. -/
def EnumerationDraft.finish (draft : EnumerationDraft) : Enumeration :=
  { name := draft.name.getD ""
    values := draft.values.getD []
    documentation := draft.documentation.getD none }

/-- Read an enum. -/
def readEnumeration (value : V) : Except Fault Enumeration :=
  (enumerationFormat.read {} value).map EnumerationDraft.finish

/-! ## Data models -/

/-- A data model that is being read. -/
structure Draft where
  entities : Option (List Entity) := none
  enums : Option (List Enumeration) := none

/-- The record of a data model. -/
def recordFormat : RecordFormat V Draft where
  title := "DataModel"
  requiredCount := 1
  slots :=
    [ { name := "models"
        isFilled := fun draft => draft.entities.isSome
        fill := fun value draft => do
          let entities ← readAll readEntity value
          .ok { draft with entities := some entities } },
      { name := "enums"
        isFilled := fun draft => draft.enums.isSome
        fill := fun value draft => do
          let enums ← readAll readEnumeration value
          .ok { draft with enums := some enums } } ]

/-- The data model of a finished draft. -/
def Draft.finish (draft : Draft) : DataModel :=
  { entities := draft.entities.getD [], enums := draft.enums.getD [] }

/-- Refuse a data model in which a name is declared twice; entities are looked at first. -/
def checkNames (model : DataModel) : Except ModelError DataModel :=
  match repeatedName? [] (model.entities.map Entity.name) with
  | some name => .error (.repeatedEntity name)
  | none =>
      match repeatedName? [] (model.enums.map Enumeration.name) with
      | some name => .error (.repeatedEnum name)
      | none => .ok model

/-- Read a data model. -/
def ofDocument (value : V) : Except ModelError DataModel :=
  match recordFormat.read {} value with
  | .error fault => .error (.document fault)
  | .ok draft => draft.finish.checkNames

/-- Read a data model from JSON text. -/
def ofJsonText (text : String) : Except ModelError DataModel :=
  match Json.read text with
  | .error fault => .error (.document (.json fault))
  | .ok value => ofDocument value

/-- Read a data model from YAML text. -/
def ofYamlText (text : String) : Except ModelError DataModel :=
  match Yaml.read text with
  | .error fault => .error (.document fault)
  | .ok value => ofDocument value

end DataModel
end EntitySchema
