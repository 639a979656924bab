import EntitySchema.Document

/-!
# Records of a document

A record is read field by field in the order of the document into a draft.  Fields with unknown
names are skipped, and a field may be given once.  A record given by position lists its fields in
the order of their declaration and may leave off trailing fields that have a default.
-/

namespace EntitySchema
namespace Document

/-- One field of a record that is read into drafts of type `D`. -/
structure Slot (V D : Type) where
  /-- The name of the field. -/
  name : String
  /-- Whether a draft already holds the field. -/
  isFilled : D -> Bool
  /-- Read the field into a draft. -/
  fill : V -> D -> Except Fault D

/-- A record: its title, its fields, and how many of them, from the first on, have no default. -/
structure RecordFormat (V D : Type) where
  /-- The title of the record. -/
  title : String
  /-- The fields in the order of their declaration. -/
  slots : List (Slot V D)
  /-- The number of fields without default; they come first. -/
  requiredCount : Nat

namespace RecordFormat

variable {V D : Type}

/-- Read one named entry into a draft. -/
def readEntry (format : RecordFormat V D) (draft : D) (entry : String × V) :
    Except Fault D :=
  match format.slots.find? fun slot => slot.name == entry.1 with
  | none => .ok draft
  | some slot =>
      if slot.isFilled draft then .error (.repeatedField slot.name)
      else slot.fill entry.2 draft

/-- Read named entries into a draft, in their order. -/
def readEntries (format : RecordFormat V D) (draft : D) (entries : List (String × V)) :
    Except Fault D :=
  entries.foldlM format.readEntry draft

/-- The first field without default that a draft does not hold. -/
def missingField? (format : RecordFormat V D) (draft : D) : Option String :=
  ((format.slots.take format.requiredCount).find? fun slot => !slot.isFilled draft).map Slot.name

/-- Read items into a draft, one for each field in turn. -/
def readItems : List (Slot V D) -> D -> List V -> Except Fault D
  | slot :: slots, draft, item :: items => do
      let filled ← slot.fill item draft
      readItems slots filled items
  | _, draft, _ => .ok draft

/-- Read a record into a draft that holds every field without default. -/
def read [DocumentFormat V] (format : RecordFormat V D) (empty : D) (value : V) :
    Except Fault D := do
  match ← DocumentFormat.record format.title value with
  | .named entries =>
      let draft ← format.readEntries empty entries
      match format.missingField? draft with
      | some name => .error (.missingField name)
      | none => .ok draft
  | .positional items =>
      let draft ← readItems format.slots empty items
      if items.length < format.requiredCount then
        .error (.tooFewItems items.length format.title format.slots.length)
      else if format.slots.length < items.length then
        .error .tooManyItems
      else
        .ok draft

end RecordFormat
end Document
end EntitySchema
