import EntitySchema.DataModel.Printer
import EntitySchema.Proofs.JsonPrinting
import EntitySchema.Proofs.Records
import EntitySchema.Proofs.Reports

/-!
# Documents of data models

A data model is read back from its own document.  The kind of a field is spelled so that a type
without validator stays apart from a supported type of the same name, and what a document leaves out
is what reading takes for absent.  A data model in which names repeat has a document as well, but
the document is refused with the first name that repeats.
-/

namespace EntitySchema

open Document

/-! ## Names that repeat -/

/-- The first name of a list that occurs before in it. -/
def FirstRepeated (names : List String) (name : String) : Prop :=
  ∃ earlier later, names = earlier ++ name :: later ∧ earlier.Nodup ∧ name ∈ earlier

namespace DataModel

theorem repeatedName?_eq_some
    {names seen : List String}
    {name : String}
    (found : repeatedName? seen names = some name) :
    ∃ earlier later, names = earlier ++ name :: later ∧ earlier.Nodup ∧
      (∀ other ∈ earlier, other ∉ seen) ∧ (name ∈ earlier ∨ name ∈ seen) := by
  induction names generalizing seen with
  | nil => cases found
  | cons first rest inductionHypothesis =>
      rw [repeatedName?] at found
      split_ifs at found with known
      · obtain rfl := Option.some.inj found
        exact ⟨[], rest, rfl, List.nodup_nil, by simp, .inr (by simpa using known)⟩
      · obtain ⟨earlier, later, rfl, distinct, fresh, repeated⟩ := inductionHypothesis found
        refine ⟨first :: earlier, later, rfl, ?_, ?_, ?_⟩
        · refine List.nodup_cons.2 ⟨fun member => ?_, distinct⟩
          exact fresh first member List.mem_cons_self
        · refine List.forall_mem_cons.2 ⟨by simpa using known, fun other member => ?_⟩
          exact fun isSeen => fresh other member (List.mem_cons_of_mem _ isSeen)
        · simp only [List.mem_cons] at repeated ⊢
          tauto

/-- A list in which a name repeats has a first name that does. -/
theorem exists_firstRepeated
    {names : List String}
    (repeats : ¬ names.Nodup) :
    ∃ name, FirstRepeated names name ∧ repeatedName? [] names = some name := by
  cases found : repeatedName? [] names with
  | none => exact absurd (repeatedName?_eq_none_iff.1 found).1 repeats
  | some name =>
      obtain ⟨earlier, later, split, distinct, -, repeated⟩ := repeatedName?_eq_some found
      exact ⟨name, ⟨earlier, later, split, distinct, by simpa using repeated⟩, rfl⟩

theorem repeatedName?_of_nodup
    {names : List String}
    (distinct : names.Nodup) :
    repeatedName? [] names = none :=
  repeatedName?_eq_none_iff.2 ⟨distinct, by simp⟩

/-- A data model that was accepted has distinct names. -/
theorem names_nodup_of_checkNames
    {draft model : DataModel}
    (accepted : draft.checkNames = .ok model) :
    (model.entities.map Entity.name).Nodup ∧ (model.enums.map Enumeration.name).Nodup := by
  have same : model = draft := by
    unfold checkNames at accepted
    split at accepted
    · cases accepted
    · split at accepted
      · cases accepted
      · exact (Except.ok.inj accepted).symm
  subst same
  exact checkNames_eq_ok_iff.1 accepted

end DataModel

/-! ## Written records -/

theorem FieldKind.ofSpelling?_spelling (kind : FieldKind) :
    ofSpelling? kind.spelling kind.typeName = some kind := by
  cases kind with
  | scalar type => cases type <;> rfl
  | enumeration name => rfl
  | relation target => rfl

namespace DataModel

theorem readField_toJson (field : Field) : readField field.toJson = .ok field := by
  have draft : fieldFormat.read {} field.toJson = .ok
      { name := some field.name
        kind := some field.kind.spelling
        typeName := some field.kind.typeName
        isList := some field.isList
        isRequired := some field.isRequired
        documentation := field.documentation.map some } := by
    obtain ⟨name, kind, isList, isRequired, documentation⟩ := field
    cases documentation <;> rfl
  unfold readField
  rw [draft]
  simp only [Except.bind, FieldDraft.finish, Option.getD_some, FieldKind.ofSpelling?_spelling]
  obtain ⟨name, kind, isList, isRequired, documentation⟩ := field
  cases documentation <;> rfl

theorem readEnumValue_toJson (value : EnumValue) : readEnumValue value.toJson = .ok value := by
  obtain ⟨name, storedName⟩ := value
  cases storedName <;> rfl

/-- A sequence of written items is read back when every item is. -/
theorem readAll_map
    {α : Type}
    {readItem : Json → Except Fault α}
    {write : α → Json}
    (items : List α)
    (readBack : ∀ item ∈ items, readItem (write item) = .ok item) :
    readAll readItem (.array (items.map write)) = .ok items := by
  change (items.map write).mapM readItem = .ok items
  induction items with
  | nil => rfl
  | cons item rest inductionHypothesis =>
      rw [List.forall_mem_cons] at readBack
      rw [List.map_cons, List.mapM_cons, readBack.1, inductionHypothesis readBack.2]
      rfl

/-- A field that holds a list is filled with the written items when every item is read back. -/
theorem readEntry_array
    {D α : Type}
    {readItem : Json → Except Fault α}
    {write : α → Json}
    (format : RecordFormat Json D)
    (draft : D)
    (key : String)
    (listed : List α → D)
    (fills : ∀ value, format.readEntry draft (key, value) =
      (readAll readItem value).bind fun items => .ok (listed items))
    {items : List α}
    (readBack : ∀ item ∈ items, readItem (write item) = .ok item) :
    format.readEntry draft (key, .array (items.map write)) = .ok (listed items) := by
  rw [fills, readAll_map items readBack]
  rfl

/-- A record of a name, a list and a documentation that may be absent is read entry by entry. -/
theorem read_described
    {D : Type}
    {format : RecordFormat Json D}
    {empty named listed described : D}
    {name key : String}
    {items : Json}
    {documentation : Option String}
    (readName : format.readEntry empty ("name", .string name) = .ok named)
    (readItems : format.readEntry named (key, items) = .ok listed)
    (readDocumentation :
      format.readEntries listed (Json.optionalEntry "documentation" documentation) = .ok described)
    (complete : format.missingField? described = none) :
    format.read empty
        (.object
          ([("name", .string name), (key, items)] ++
            Json.optionalEntry "documentation" documentation)) =
      .ok described := by
  apply RecordFormat.read_named rfl _ complete
  rw [List.cons_append, RecordFormat.readEntries_cons readName, List.cons_append,
    RecordFormat.readEntries_cons readItems]
  exact readDocumentation

theorem readEntity_toJson (entity : Entity) : readEntity entity.toJson = .ok entity := by
  obtain ⟨name, fields, documentation⟩ := entity
  have filled := readEntry_array entityFormat { name := some name } "fields"
    (fun fields => { name := some name, fields := some fields })
    (fun _ => rfl) fun field (_ : field ∈ fields) => readField_toJson field
  have draft : entityFormat.read {} (Entity.toJson ⟨name, fields, documentation⟩) = .ok
      { name := some name, fields := some fields, documentation := documentation.map some } :=
    read_described rfl filled (by cases documentation <;> rfl) rfl
  unfold readEntity
  rw [draft]
  cases documentation <;> rfl

theorem readEnumeration_toJson (enumeration : Enumeration) :
    readEnumeration enumeration.toJson = .ok enumeration := by
  obtain ⟨name, values, documentation⟩ := enumeration
  have filled := readEntry_array enumerationFormat { name := some name } "values"
    (fun values => { name := some name, values := some values })
    (fun _ => rfl) fun value (_ : value ∈ values) => readEnumValue_toJson value
  have draft : enumerationFormat.read {} (Enumeration.toJson ⟨name, values, documentation⟩) = .ok
      { name := some name, values := some values, documentation := documentation.map some } :=
    read_described rfl filled (by cases documentation <;> rfl) rfl
  unfold readEnumeration
  rw [draft]
  cases documentation <;> rfl

/-- The value of a data model is read as the data model, and then its names are checked. -/
theorem ofDocument_toJson (model : DataModel) : ofDocument model.toJson = model.checkNames := by
  have filledEntities := readEntry_array recordFormat {} "models"
    (fun entities => { entities := some entities })
    (fun _ => rfl) fun entity (_ : entity ∈ model.entities) => readEntity_toJson entity
  have filledEnums := readEntry_array recordFormat { entities := some model.entities } "enums"
    (fun enums => { entities := some model.entities, enums := some enums })
    (fun _ => rfl) fun enumeration (_ : enumeration ∈ model.enums) =>
      readEnumeration_toJson enumeration
  have draft : recordFormat.read {} model.toJson =
      .ok { entities := some model.entities, enums := some model.enums } := by
    apply RecordFormat.read_named rfl _ rfl
    rw [RecordFormat.readEntries_cons filledEntities, RecordFormat.readEntries_cons filledEnums]
    rfl
  unfold ofDocument
  rw [draft]
  rfl

end DataModel

/-! ## Written documents -/

theorem Json.isSpellable_optionalEntry (key : String) (text : Option String) :
    (optionalEntry key text).all fun entry => entry.2.isSpellable := by
  cases text <;> rfl

namespace DataModel

theorem isSpellable_toJson (model : DataModel) : model.toJson.isSpellable := by
  have field (field : Field) : field.toJson.isSpellable := by
    unfold Field.toJson
    simp [Json.isSpellable_object, Json.isSpellable_string, Json.isSpellable_bool,
      Json.isSpellable_optionalEntry]
  have entity (entity : Entity) : entity.toJson.isSpellable := by
    unfold Entity.toJson
    simp [Json.isSpellable_object, Json.isSpellable_string, Json.isSpellable_map field,
      Json.isSpellable_optionalEntry]
  have enumValue (value : EnumValue) : value.toJson.isSpellable := by
    unfold EnumValue.toJson
    simp [Json.isSpellable_object, Json.isSpellable_string, Json.isSpellable_optionalEntry]
  have enumeration (enumeration : Enumeration) : enumeration.toJson.isSpellable := by
    unfold Enumeration.toJson
    simp [Json.isSpellable_object, Json.isSpellable_string, Json.isSpellable_map enumValue,
      Json.isSpellable_optionalEntry]
  unfold toJson
  simp [Json.isSpellable_object, Json.isSpellable_map entity, Json.isSpellable_map enumeration]

/-- The document of a data model, on one line or on many, is read as the data model, whose names are
then checked. -/
theorem ofJsonText_written
    (model : DataModel)
    {text : String}
    (written : text = model.toJson.compact ∨ text = model.toJson.pretty) :
    ofJsonText text = model.checkNames := by
  have read : Json.read text = .ok model.toJson := by
    rcases written with rfl | rfl
    · exact Json.read_compact model.isSpellable_toJson
    · exact Json.read_pretty model.isSpellable_toJson
  unfold ofJsonText
  rw [read]
  exact ofDocument_toJson model

theorem names_nodup_of_ofJsonText
    {source : String}
    {model : DataModel}
    (accepted : ofJsonText source = .ok model) :
    (model.entities.map Entity.name).Nodup ∧ (model.enums.map Enumeration.name).Nodup := by
  unfold ofJsonText at accepted
  split at accepted
  · cases accepted
  · unfold ofDocument at accepted
    split at accepted
    · cases accepted
    · exact names_nodup_of_checkNames accepted

/-- The document of a data model, on one line or on many, is read back as the data model if no two
entities and no two enums share a name.  Otherwise it is refused with the first entity name that
repeats, or with the first enum name that repeats if no entity name does.  So a data model that
some document yields is read back from its own document. -/
theorem document_read_back
    (model : DataModel)
    {text : String}
    (written : text = model.toJson.compact ∨ text = model.toJson.pretty) :
    ((model.entities.map Entity.name).Nodup → (model.enums.map Enumeration.name).Nodup →
        ofJsonText text = .ok model) ∧
      (¬ (model.entities.map Entity.name).Nodup →
        ∃ name, FirstRepeated (model.entities.map Entity.name) name ∧
          ofJsonText text = .error (.repeatedEntity name)) ∧
      ((model.entities.map Entity.name).Nodup → ¬ (model.enums.map Enumeration.name).Nodup →
        ∃ name, FirstRepeated (model.enums.map Enumeration.name) name ∧
          ofJsonText text = .error (.repeatedEnum name)) ∧
      ∀ source, ofJsonText source = .ok model → ofJsonText text = .ok model := by
  have readBack : (model.entities.map Entity.name).Nodup →
      (model.enums.map Enumeration.name).Nodup → ofJsonText text = .ok model := by
    intro distinctEntities distinctEnums
    rw [ofJsonText_written model written]
    exact checkNames_eq_ok_iff.2 ⟨distinctEntities, distinctEnums⟩
  refine ⟨readBack, ?_, ?_, ?_⟩
  · intro repeats
    obtain ⟨name, isFirst, found⟩ := exists_firstRepeated repeats
    refine ⟨name, isFirst, ?_⟩
    rw [ofJsonText_written model written, checkNames, found]
  · intro distinct repeats
    obtain ⟨name, isFirst, found⟩ := exists_firstRepeated repeats
    refine ⟨name, isFirst, ?_⟩
    rw [ofJsonText_written model written, checkNames, repeatedName?_of_nodup distinct, found]
  · intro source accepted
    obtain ⟨distinctEntities, distinctEnums⟩ := names_nodup_of_ofJsonText accepted
    exact readBack distinctEntities distinctEnums

/-- A type without validator keeps the name of a supported type, and a name that is declared twice
is the one that is refused. -/
theorem document_read_back_ledger :
    ofJsonText
        (toJson
          { entities :=
              [ { name := "Ledger"
                  fields :=
                    [ { name := "balance", kind := .scalar (.unsupported "Int") },
                      { name := "side", kind := .enumeration "Side", isRequired := false },
                      { name := "entries", kind := .relation "Ledger", isList := true } ]
                  documentation := some "\"signed\"\n" } ]
            enums := [{ name := "Side", values := [{ name := "DEBIT", storedName := some "d" }] }] }
          ).compact =
        .ok
          { entities :=
              [ { name := "Ledger"
                  fields :=
                    [ { name := "balance", kind := .scalar (.unsupported "Int") },
                      { name := "side", kind := .enumeration "Side", isRequired := false },
                      { name := "entries", kind := .relation "Ledger", isList := true } ]
                  documentation := some "\"signed\"\n" } ]
            enums :=
              [{ name := "Side", values := [{ name := "DEBIT", storedName := some "d" }] }] } ∧
      ∃ name, FirstRepeated ["Ledger", "Entry", "Ledger"] name ∧
        ofJsonText
            (toJson
              { entities :=
                  [ { name := "Ledger", fields := [] },
                    { name := "Entry", fields := [] },
                    { name := "Ledger", fields := [] } ]
                enums := [] }).pretty =
          .error (.repeatedEntity name) := by
  refine ⟨(document_read_back _ (.inl rfl)).1 (by decide) (by decide), ?_⟩
  exact (document_read_back ⟨["Ledger", "Entry", "Ledger"].map fun name => ⟨name, [], none⟩, []⟩
    (.inr rfl)).2.1 (by decide)

end DataModel
end EntitySchema
