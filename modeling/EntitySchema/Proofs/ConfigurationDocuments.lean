import EntitySchema.Configuration.Printer
import EntitySchema.Configuration.Reader
import EntitySchema.DataModel.Printer
import EntitySchema.Proofs.JsonPrinting
import EntitySchema.Proofs.Records
import EntitySchema.Proofs.WrittenDocumentation
import EntitySchema.Proofs.YamlEntries

/-!
# Documents of a configuration

A configuration is read back from the documents that are written for it.  What a document is read as
does not change when truth values and numbers are spelled as texts.
-/

namespace EntitySchema
namespace Configuration

open Document (Fault)

variable {V : Type} [DocumentFormat V]

/-! ## Options -/

/-- A value of a document that is a scalar to a reader that accepts any scalar, and is its own text
to a reader that expects a text or a choice. -/
structure Presents (value : V) (scalar : LenientScalar) : Prop where
  lenient : DocumentFormat.lenient value = .ok scalar
  text : ∀ text, scalar = .text text → DocumentFormat.text value = .ok text
  optionalText : ∀ text, scalar = .text text → DocumentFormat.optionalText value = .ok (some text)
  choice : ∀ text, scalar = .text text →
    ∀ {α : Type} (accept : String → Except Fault α),
      DocumentFormat.choice accept value = accept text

/-- Every key reads the scalar that it writes. -/
theorem Key.read_of_presents
    {key : Key}
    {optionValue : key.Value}
    {scalar : LenientScalar}
    (written : key.write optionValue = some scalar)
    {value : V}
    (presents : Presents value scalar) :
    key.read value = .ok optionValue := by
  have choice {α : Type} (choices : Choices α) (chosen : α)
      (accepts : choices.accept (choices.spelling chosen) = .ok chosen)
      (spelled : some (LenientScalar.text (choices.spelling chosen)) = some scalar) :
      DocumentFormat.choice choices.accept value = .ok chosen := by
    rw [presents.choice _ (Option.some.inj spelled).symm, accepts]
  have optional (text : Option String) (spelled : text.map LenientScalar.text = some scalar) :
      DocumentFormat.optionalText value = .ok text := by
    obtain ⟨text, rfl, isText⟩ := Option.map_eq_some_iff.1 spelled
    exact presents.optionalText text isText.symm
  have flag (isTrue : Bool) (spelled : some (LenientScalar.flag isTrue) = some scalar) :
      readFlag value = .ok isTrue := by
    obtain rfl := Option.some.inj spelled
    rw [readFlag, presents.lenient]
    rfl
  cases key with
  | relationMode =>
      obtain rfl := Option.some.inj written
      rw [Key.read, readRelationMode, presents.lenient]
      cases optionValue <;> rfl
  | indentSize =>
      obtain rfl := Option.some.inj written
      rw [Key.read, readNatural, presents.lenient]
      rfl
  | modelSuffix => exact presents.text _ (Option.some.inj written).symm
  | imports | enumFile | enumImport => exact optional _ written
  | useDecimalLibrary | excludeJsonNull | singleQuote | trailingCommas | ignoreRelationTypes =>
      exact flag _ written
  | modelCasing | fileCasing | indentKind | semicolons | dateTimeMode | nullability =>
      exact choice _ _ (by cases optionValue <;> rfl) written

/-! ## Records -/

/-- The options among the given ones that are present, each with its name and its scalar. -/
def entriesOf (configuration : Configuration) (keys : List Key) : List (String × LenientScalar) :=
  keys.filterMap fun key =>
    (key.write (configuration.get key)).map fun scalar => (key.name, scalar)

/-- Change an option to its value in another configuration, if it is present there. -/
def takeOver (source target : Configuration) (key : Key) : Configuration :=
  if (key.write (source.get key)).isSome then target.set key (source.get key) else target

/-- A configuration is what is left of the default one after all its options were taken over. -/
theorem foldl_takeOver (configuration : Configuration) :
    Key.all.foldl configuration.takeOver {} = configuration := by
  obtain ⟨_, _, _, _, imports, _, _, enumFile, enumImport, _, _, _, _, _, _, _, _⟩ := configuration
  cases imports <;> cases enumFile <;> cases enumImport <;> rfl

theorem find?_slots (key : Key) :
    (recordFormat (V := V)).slots.find? (fun slot => slot.name == key.name) = some key.slot := by
  cases key <;> rfl

/-- The values of a document stand for the given entries: they have the same names in the same
order, and each presents itself as the scalar of its entry. -/
def HasEntries (values : List (String × V)) (entries : List (String × LenientScalar)) : Prop :=
  List.Forall₂ (fun value entry => value.1 = entry.1 ∧ Presents value.2 entry.2) values entries

/-- An entry that its key can read changes the option of the key. -/
theorem readEntry_of_presents
    {draft : Draft}
    {key : Key}
    (fresh : key ∉ draft.given)
    {optionValue : key.Value}
    {entry : String × V}
    (read : key.read entry.2 = .ok optionValue)
    (sameName : entry.1 = key.name) :
    recordFormat.readEntry draft entry =
      .ok ⟨draft.configuration.set key optionValue, key :: draft.given⟩ := by
  have isEmpty : ¬draft.given.contains key := by simpa using fresh
  rw [Document.RecordFormat.readEntry, sameName, find?_slots]
  simp only [Key.slot, if_neg isEmpty, read]
  rfl

/-- The entries of the given keys are read one after the other. -/
theorem readEntries_of_hasEntries
    (configuration : Configuration)
    {keys : List Key}
    (distinct : keys.Nodup)
    {values : List (String × V)}
    (hasEntries : HasEntries values (configuration.entriesOf keys))
    {draft : Draft}
    (fresh : ∀ key ∈ keys, key ∉ draft.given) :
    ∃ given, recordFormat.readEntries draft values =
      .ok { configuration := keys.foldl configuration.takeOver draft.configuration, given } := by
  induction keys generalizing values draft with
  | nil =>
      cases hasEntries
      exact ⟨draft.given, rfl⟩
  | cons key keys inductionHypothesis =>
      rw [List.nodup_cons] at distinct
      rw [List.forall_mem_cons] at fresh
      cases written : key.write (configuration.get key) with
      -- An absent option leaves no entry, and a draft that was not given the key keeps its default.
      | none =>
          have absent : configuration.entriesOf (key :: keys) = configuration.entriesOf keys := by
            simp [entriesOf, written]
          have kept : configuration.takeOver draft.configuration key = draft.configuration := by
            simp [takeOver, written]
          rw [absent] at hasEntries
          rw [List.foldl_cons, kept]
          exact inductionHypothesis distinct.2 hasEntries fresh.2
      | some scalar =>
          have present : configuration.entriesOf (key :: keys) =
              (key.name, scalar) :: configuration.entriesOf keys := by
            simp [entriesOf, written]
          have changed : configuration.takeOver draft.configuration key =
              draft.configuration.set key (configuration.get key) := by
            simp [takeOver, written]
          rw [present] at hasEntries
          cases hasEntries with
          | @cons value _ values _ first others =>
              obtain ⟨sameName, presents⟩ := first
              have read := readEntry_of_presents fresh.1
                (Key.read_of_presents written presents) sameName
              rw [Document.RecordFormat.readEntries_cons read, List.foldl_cons, changed]
              refine inductionHypothesis distinct.2 others ?_
              intro other member given
              rcases List.mem_cons.1 given with rfl | given
              · exact distinct.1 member
              · exact fresh.2 other member given

/-- A document that has the entries of a configuration is read as the configuration. -/
theorem ofDocument_of_hasEntries
    {configuration : Configuration}
    {value : V}
    {values : List (String × V)}
    (named : DocumentFormat.record "Config" value = .ok (.named values))
    (hasEntries : HasEntries values configuration.entries) :
    ofDocument value = .ok configuration := by
  have distinct : Key.all.Nodup := by decide
  have fresh : ∀ key ∈ Key.all, key ∉ ({} : Draft).given := nofun
  obtain ⟨given, read⟩ := readEntries_of_hasEntries configuration distinct hasEntries fresh
  rw [foldl_takeOver] at read
  rw [ofDocument, Document.RecordFormat.read_named named read rfl]
  rfl

/-! ## JSON documents -/

theorem presents_scalarJson (scalar : LenientScalar) : Presents (scalarJson scalar) scalar where
  lenient := by cases scalar <;> rfl
  text := by
    rintro text rfl
    rfl
  optionalText := by
    rintro text rfl
    rfl
  choice := by
    rintro text rfl _ accept
    rfl

theorem ofDocument_toJson (configuration : Configuration) :
    ofDocument configuration.toJson = .ok configuration := by
  apply ofDocument_of_hasEntries rfl
  unfold HasEntries
  rw [List.forall₂_map_left_iff, List.forall₂_same]
  exact fun entry _ => ⟨rfl, presents_scalarJson entry.2⟩

theorem exists_key_of_mem_entries
    {configuration : Configuration}
    {entry : String × LenientScalar}
    (member : entry ∈ configuration.entries) :
    ∃ key : Key, entry.1 = key.name ∧ key.write (configuration.get key) = some entry.2 := by
  obtain ⟨key, -, isEntry⟩ := List.mem_filterMap.1 member
  obtain ⟨scalar, written, rfl⟩ := Option.map_eq_some_iff.1 isEntry
  exact ⟨key, rfl, written⟩

/-- The only number among the options is the size of the indentation. -/
theorem eq_indentSize_of_mem_entries
    {configuration : Configuration}
    {name : String}
    {value : Nat}
    (member : (name, .natural value) ∈ configuration.entries) :
    value = configuration.indentSize := by
  obtain ⟨key, -, written⟩ := exists_key_of_mem_entries member
  cases key with
  | indentSize => exact (LenientScalar.natural.inj (Option.some.inj written)).symm
  | relationMode =>
      have isFlag := Option.some.inj written
      revert isFlag
      cases configuration.get .relationMode <;> exact nofun
  | imports | enumFile | enumImport =>
      obtain ⟨text, -, isText⟩ := Option.map_eq_some_iff.1 written
      cases isText
  | _ => cases written

theorem isSpellable_toJson
    {configuration : Configuration}
    (fits : configuration.indentSize < Nat.pow 2 64) :
    configuration.toJson.isSpellable := by
  rw [toJson, Json.isSpellable_object, List.all_map, List.all_eq_true]
  rintro ⟨name, scalar⟩ member
  cases scalar with
  | flag value => rfl
  | text value => rfl
  | natural value =>
      obtain rfl := eq_indentSize_of_mem_entries member
      exact decide_eq_true fits

/-- The JSON document of a configuration, on one line or on many, is read back. -/
theorem ofJsonText_written
    {configuration : Configuration}
    (fits : configuration.indentSize < Nat.pow 2 64)
    {text : String}
    (written : text = configuration.toJson.compact ∨ text = configuration.toJson.pretty) :
    ofJsonText text = .ok configuration := by
  have read : Json.read text = .ok configuration.toJson := by
    rcases written with rfl | rfl
    · exact Json.read_compact (isSpellable_toJson fits)
    · exact Json.read_pretty (isSpellable_toJson fits)
  rw [ofJsonText, read]
  exact ofDocument_toJson configuration

/-! ## YAML documents -/

open Yaml (IsName IsEntryValue IsPlain ScalarEntry ScalarStyle WrittenEntries PlainValue)

theorem Key.isName (key : Key) : IsName key.name.toList := by
  cases key <;> exact ⟨by decide, List.all_eq_true.1 rfl, by decide⟩

/-- A scalar of a document that is its own text. -/
theorem presents_text
    {style : ScalarStyle}
    {text : String}
    (ownText : style = .plain → PlainValue.ofText text = .ownText)
    (document : Yaml.YamlDocument) :
    Presents (Yaml.Value.mk document (.scalar none style text)) (.text text) where
  lenient := by
    cases style with
    | plain =>
        change Yaml.Value.lenientPlain text = .ok (.text text)
        rw [Yaml.Value.lenientPlain, ownText rfl]
    | _ => rfl
  text := by
    rintro _ ⟨⟩
    rfl
  optionalText := by
    rintro _ ⟨⟩
    cases style with
    | plain =>
        have nonempty : text.isEmpty = false := by
          by_contra isEmpty
          obtain rfl : text = "" := String.isEmpty_iff.1 (by simpa using isEmpty)
          cases ownText rfl
        have noNull : Yaml.Value.spellsNull text = false := by
          rw [Yaml.Value.spellsNull, ownText rfl, nonempty]
          rfl
        change Except.ok (if text.isEmpty || Yaml.Value.spellsNull text then none else some text) =
          Except.ok (some text)
        rw [nonempty, noNull]
        rfl
    | _ => rfl
  choice := by
    rintro _ ⟨⟩ _ accept
    rfl

/-- A plain scalar of a document that denotes a truth value or a number. -/
theorem presents_plain
    {text : String}
    {scalar : LenientScalar}
    (denotes : Yaml.Value.lenientPlain text = .ok scalar)
    (noText : ∀ text, scalar ≠ .text text)
    (document : Yaml.YamlDocument) :
    Presents (Yaml.Value.mk document (.scalar none .plain text)) scalar where
  lenient := denotes
  text other isText := absurd isText (noText other)
  optionalText other isText := absurd isText (noText other)
  choice other isText := absurd isText (noText other)

theorem isEntryValue_word
    {word : String}
    (isPlain : IsPlain word.toList) :
    IsEntryValue (word ++ "\n").toList .plain word.toList := by
  rw [String.toList_append]
  exact .plain isPlain

/-- What is written for a scalar is read as a scalar of a document that presents it. -/
theorem exists_entryValue
    {scalar : LenientScalar}
    (fits : ∀ value, scalar = .natural value → value < Nat.pow 2 64) :
    ∃ style text, IsEntryValue (scalarYaml scalar).toList style text ∧
      ∀ document, Presents (Yaml.Value.mk document (.scalar none style (String.ofList text)))
        scalar := by
  cases scalar with
  | flag value =>
      have isPlain : IsPlain (toString value).toList := by
        cases value <;> exact .of_isAlphanum (by decide) (List.all_eq_true.1 rfl)
      refine ⟨.plain, (toString value).toList, isEntryValue_word isPlain, ?_⟩
      cases value <;> exact presents_plain rfl (by simp)
  | natural value =>
      have isPlain : IsPlain (toString value).toList := by
        obtain ⟨first, rest, digits, -⟩ := Numeral.exists_digit_cons value
        refine .of_isAlphanum ?_ fun character member => ?_
        · rw [Numeral.toList_toString, digits]
          exact List.cons_ne_nil first rest
        · rw [Numeral.toList_toString] at member
          exact Bool.or_eq_true_iff.2 (.inr (Numeral.isDigit_of_mem member))
      refine ⟨.plain, (toString value).toList, isEntryValue_word isPlain, ?_⟩
      refine presents_plain ?_ (by simp)
      have fitsWord := fits value rfl
      rw [String.ofList_toList, Yaml.Value.lenientPlain, PlainValue.ofText_toString fitsWord]
      simp [Yaml.Value.lenientWhole, fitsWord]
  | text value =>
      obtain ⟨style, isValue, ownText⟩ := Yaml.exists_isEntryValue value
      refine ⟨style, value.toList, isValue, fun document => ?_⟩
      rw [String.ofList_toList]
      exact presents_text ownText document

theorem exists_writtenEntries
    {entries : List (String × LenientScalar)}
    (names : ∀ entry ∈ entries, IsName entry.1.toList)
    (fits : ∀ name value, (name, .natural value) ∈ entries → value < Nat.pow 2 64) :
    ∃ scalarEntries,
      WrittenEntries scalarEntries
        (String.join (entries.map fun entry => entry.1 ++ ": " ++ scalarYaml entry.2)).toList ∧
      ∀ document, HasEntries (scalarEntries.map (·.valueIn document)) entries := by
  induction entries with
  | nil => exact ⟨[], .none, fun _ => .nil⟩
  | cons entry entries inductionHypothesis =>
      obtain ⟨name, scalar⟩ := entry
      rw [List.forall_mem_cons] at names
      obtain ⟨scalarEntries, written, hasEntries⟩ := inductionHypothesis names.2
        fun name value member => fits name value (List.mem_cons_of_mem _ member)
      obtain ⟨style, text, isValue, presents⟩ := exists_entryValue
        fun value isNatural => fits name value (isNatural ▸ List.mem_cons_self)
      refine ⟨⟨name.toList, style, text⟩ :: scalarEntries, ?_, fun document => ?_⟩
      · have shape : (String.join (((name, scalar) :: entries).map fun entry =>
            entry.1 ++ ": " ++ scalarYaml entry.2)).toList =
          name.toList ++ ':' :: ' ' :: ((scalarYaml scalar).toList ++
            (String.join (entries.map fun entry =>
              entry.1 ++ ": " ++ scalarYaml entry.2)).toList) := by
          rw [List.map_cons, String.join_cons]
          simp
        rw [shape]
        exact .entry names.1 isValue written
      · exact .cons ⟨String.ofList_toList, presents document⟩ (hasEntries document)

/-- The YAML document of a configuration is read back. -/
theorem ofYamlText_toYaml
    {configuration : Configuration}
    (fits : configuration.indentSize < Nat.pow 2 64) :
    ofYamlText configuration.toYaml = .ok configuration := by
  have names : ∀ entry ∈ configuration.entries, IsName entry.1.toList := by
    intro entry member
    obtain ⟨key, name, -⟩ := exists_key_of_mem_entries member
    rw [name]
    exact key.isName
  have fitsWord : ∀ name value, (name, .natural value) ∈ configuration.entries →
      value < Nat.pow 2 64 := by
    intro name value member
    rw [eq_indentSize_of_mem_entries member]
    exact fits
  obtain ⟨scalarEntries, written, hasEntries⟩ := exists_writtenEntries names fitsWord
  cases scalarEntries with
  | nil => cases hasEntries ⟨none, []⟩
  | cons first others =>
      obtain ⟨document, read⟩ := written.read_eq
      rw [String.ofList_toList] at read
      obtain ⟨rest, startsWith⟩ : ∃ rest, configuration.toYaml.toList = 'r' :: rest := by
        have shape : configuration.entries =
            ("relationModel", scalarOfRelationMode configuration.relationMode) ::
              configuration.entriesOf Key.all.tail :=
          rfl
        rw [toYaml, shape, List.map_cons, String.join_cons, String.toList_append,
          String.toList_append, String.toList_append]
        have name : "relationModel".toList = 'r' :: "elationModel".toList := rfl
        rw [name]
        exact ⟨_, rfl⟩
      have visible : (Text.trim configuration.toYaml.toList).isEmpty = false := by
        rw [startsWith, Text.trim_cons (by decide)]
        rfl
      rw [ofYamlText, visible, toYaml, read]
      exact ofDocument_of_hasEntries (Yaml.readRecordBody_nodes _ _ _) (hasEntries document)

/-! ## Spellings -/

/-- Whether the value of an option may also be spelled as a text. -/
def Key.isLenient : Key -> Bool
  | .relationMode => true
  | .useDecimalLibrary => true
  | .excludeJsonNull => true
  | .indentSize => true
  | .singleQuote => true
  | .trailingCommas => true
  | .ignoreRelationTypes => true
  | _ => false

/-- The value of an option, a truth value or a number, is replaced by the text that spells it.
There may be white space around the size of the indentation. -/
inductive Respelled : Key → Json → Json → Prop
  | flag {key : Key} (lenient : key.isLenient) (value : Bool) :
      Respelled key (.bool value) (.string (toString value))
  | natural {key : Key} (lenient : key.isLenient) (value : Nat) :
      Respelled key (.nat value) (.string (toString value))
  | padded {before after : String}
      (blankBefore : ∀ character ∈ before.toList, Text.isWhiteSpace character)
      (blankAfter : ∀ character ∈ after.toList, Text.isWhiteSpace character)
      (value : Nat) :
      Respelled .indentSize (.nat value) (.string (before ++ toString value ++ after))

/-- The entries of a document of which any number of options are spelled as texts. -/
def RespelledEntries (entries others : List (String × Json)) : Prop :=
  List.Forall₂
    (fun entry other => other.1 = entry.1 ∧
      (other.2 = entry.2 ∨ ∃ key : Key, key.name = entry.1 ∧ Respelled key entry.2 other.2))
    entries others

theorem not_isWhiteSpace_of_isDigit
    {character : Char}
    (isDigit : character.isDigit) :
    Text.isWhiteSpace character = false := by
  obtain ⟨least, greatest⟩ : 48 ≤ character.toNat ∧ character.toNat ≤ 57 := by
    have inRange : 48 ≤ character.val && character.val ≤ 57 := isDigit
    simpa [UInt32.le_iff_toNat_le] using inRange
  simp [Text.isWhiteSpace, Text.whiteSpaceRanges, Text.CodePointRanges.contains]
  omega

theorem readNatural_padded
    {before after : String}
    (blankBefore : ∀ character ∈ before.toList, Text.isWhiteSpace character)
    (blankAfter : ∀ character ∈ after.toList, Text.isWhiteSpace character)
    {value : Nat}
    (fits : value < Nat.pow 2 64) :
    readNatural (Json.string (before ++ toString value ++ after)) = .ok value := by
  have visible : ∀ character ∈ Nat.toDigits 10 value, Text.isWhiteSpace character = false :=
    fun character member => not_isWhiteSpace_of_isDigit (Numeral.isDigit_of_mem member)
  change (naturalOfText (Text.trim (before ++ toString value ++ after).toList)).mapError
    Fault.badNumeral = .ok value
  rw [String.toList_append, String.toList_append, Numeral.toList_toString,
    Text.trim_between blankBefore blankAfter visible, naturalOfText_toDigits fits]
  rfl

/-- A value that is spelled as a text is read as the same value. -/
theorem Respelled.read_eq
    {key : Key}
    {value other : Json}
    (respelled : Respelled key value other)
    (fits : value.everyLeaf Json.fitsWord)
    {optionValue : key.Value}
    (read : key.read value = .ok optionValue) :
    key.read other = .ok optionValue := by
  cases respelled with
  | flag lenient value =>
      cases key with
      -- A truth value is no size, so the first reading was refused.
      | indentSize => cases read
      | relationMode | useDecimalLibrary | excludeJsonNull | singleQuote | trailingCommas
        | ignoreRelationTypes => cases value <;> exact read
      | _ => cases lenient
  | natural lenient value =>
      cases key with
      | relationMode => exact read
      | indentSize =>
          have fitsWord : value < Nat.pow 2 64 := of_decide_eq_true fits
          have unpadded := @readNatural_padded "" "" nofun nofun value fitsWord
          rw [String.empty_append, String.append_empty] at unpadded
          exact unpadded.trans read
      | useDecimalLibrary | excludeJsonNull | singleQuote | trailingCommas
        | ignoreRelationTypes => cases read
      | _ => cases lenient
  | padded blankBefore blankAfter value =>
      have fitsWord : value < Nat.pow 2 64 := of_decide_eq_true fits
      exact (readNatural_padded blankBefore blankAfter fitsWord).trans read

theorem Key.name_injective {key other : Key} (sameName : key.name = other.name) : key = other := by
  have all : ∀ key : Key, key ∈ Key.all := by
    intro key
    cases key <;> decide
  have distinct : ∀ key ∈ Key.all, ∀ other ∈ Key.all, key.name = other.name → key = other := by
    decide
  exact distinct key (all key) other (all other) sameName

/-- A key fills a draft alike after its option was spelled as a text. -/
theorem Respelled.fill_eq
    {key : Key}
    {value other : Json}
    (respelled : Respelled key value other)
    (fits : value.everyLeaf Json.fitsWord)
    {draft filled : Draft}
    (fill : key.slot.fill value draft = .ok filled) :
    key.slot.fill other draft = .ok filled := by
  cases read : key.read value with
  | error fault =>
      simp only [Key.slot, read] at fill
      cases fill
  | ok optionValue =>
      simp only [Key.slot, read] at fill
      simp only [Key.slot, respelled.read_eq fits read]
      exact fill

/-- A document is read alike after options were spelled as texts. -/
theorem ofDocument_respelled
    {entries others : List (String × Json)}
    (fits : ∀ entry ∈ entries, entry.2.everyLeaf Json.fitsWord)
    (respelled : RespelledEntries entries others)
    {result : Configuration}
    (read : ofDocument (Json.object entries) = .ok result) :
    ofDocument (Json.object others) = .ok result := by
  rw [ofDocument] at read
  cases recordRead : recordFormat.read {} (Json.object entries) with
  | error fault =>
      rw [recordRead] at read
      cases read
  | ok draft =>
      have entriesRead := Document.RecordFormat.readEntries_of_read rfl recordRead
      have othersRead : recordFormat.readEntries {} others = .ok draft := by
        refine Document.RecordFormat.readEntries_of_forall₂ ?_ entriesRead
        refine ((List.forall₂_and_left _ _).2 ⟨fits, respelled⟩).imp ?_
        rintro ⟨name, value⟩ ⟨_, other⟩ ⟨fits, rfl, same | ⟨key, sameName, respelled⟩⟩
        · exact ⟨rfl, fun slot _ _ draft filled fill => same ▸ fill⟩
        · refine ⟨rfl, fun slot member slotName draft filled fill => ?_⟩
          obtain ⟨slotKey, -, rfl⟩ := List.mem_map.1 member
          obtain rfl := Key.name_injective (slotName.trans sameName.symm)
          exact respelled.fill_eq fits fill
      rw [ofDocument, Document.RecordFormat.read_named rfl othersRead rfl, ← recordRead]
      exact read

/-! ## All documents -/

/-- The document of a configuration, written out: the options in their order under their names.
Optional texts that are absent are left out, and the relation mode is a truth value or a text. -/
def documentTree (configuration : Configuration) : Json :=
  .object
    ([ ("relationModel",
          match configuration.relationMode with
          | .disabled => .bool false
          | .enabled => .bool true
          | .default => .string "default"),
       ("modelSuffix", .string configuration.modelSuffix),
       ("modelCase", .string configuration.modelCasing.spelling),
       ("useDecimalJs", .bool configuration.useDecimalLibrary) ] ++
      Json.optionalEntry "imports" configuration.imports ++
     [ ("prismaJsonNullability", .bool configuration.excludeJsonNull),
       ("fileNameCase", .string configuration.fileCasing.spelling) ] ++
      Json.optionalEntry "enumFile" configuration.enumFile ++
      Json.optionalEntry "enumImport" configuration.enumImport ++
     [ ("indentSize", .nat configuration.indentSize),
       ("indentType", .string (indentChoices.spelling configuration.indentKind)),
       ("singleQuote", .bool configuration.singleQuote),
       ("semicolon", .string (semicolonChoices.spelling configuration.semicolons)),
       ("trailingCommas", .bool configuration.trailingCommas),
       ("ignoreRelationTypes", .bool configuration.ignoreRelationTypes),
       ("dateTimeSchema", .string (dateTimeChoices.spelling configuration.dateTimeMode)),
       ("nullableType", .string (nullabilityChoices.spelling configuration.nullability)) ])

theorem toJson_eq_documentTree (configuration : Configuration) :
    configuration.toJson = configuration.documentTree := by
  obtain ⟨mode, _, _, _, imports, _, _, enumFile, enumImport, _, _, _, _, _, _, _, _⟩ :=
    configuration
  cases mode <;> cases imports <;> cases enumFile <;> cases enumImport <;> rfl

/-- A configuration is read back from its document tree, from its JSON document, on one line or on
many, and from its YAML document.  A JSON document that yields a configuration yields the same one
when truth values and numbers of any lenient options are spelled as texts. -/
theorem options_read_back :
    (∀ configuration : Configuration, configuration.indentSize < Nat.pow 2 64 →
      configuration.toJson = configuration.documentTree ∧
      ofDocument configuration.documentTree = .ok configuration ∧
      ofJsonText configuration.toJson.compact = .ok configuration ∧
      ofJsonText configuration.toJson.pretty = .ok configuration ∧
      ofYamlText configuration.toYaml = .ok configuration) ∧
    ∀ (source : String) (entries others : List (String × Json)) (configuration : Configuration),
      Json.read source = .ok (.object entries) →
      ofJsonText source = .ok configuration →
      RespelledEntries entries others →
      ofDocument (Json.object others) = .ok configuration ∧
        ∀ respelling, Json.read respelling = .ok (.object others) →
          ofJsonText respelling = .ok configuration := by
  refine ⟨fun configuration fits => ?_, ?_⟩
  · have tree := toJson_eq_documentTree configuration
    exact ⟨tree, tree ▸ ofDocument_toJson configuration, ofJsonText_written fits (.inl rfl),
      ofJsonText_written fits (.inr rfl), ofYamlText_toYaml fits⟩
  · intro source entries others configuration sourceRead read respelled
    have fits : ∀ entry ∈ entries, entry.2.everyLeaf Json.fitsWord := by
      have fitsAll := Json.fitsWord_read sourceRead
      rwa [Json.everyLeaf, Json.everyEntryLeaf_eq, List.all_eq_true] at fitsAll
    rw [ofJsonText, sourceRead] at read
    have othersRead := ofDocument_respelled fits respelled read
    refine ⟨othersRead, fun respelling respellingRead => ?_⟩
    rw [ofJsonText, respellingRead]
    exact othersRead

/-- Texts that look like comments, numbers and several lines are read back, and so is a document
with three options spelled as texts. -/
theorem options_read_back_spelled :
    ofYamlText
        (toYaml
          { relationMode := .default
            modelSuffix := "# \"0x1F\": "
            imports := some "- a\n\n  b  "
            enumFile := some "007"
            indentSize := 18446744073709551615 }) =
        .ok
          { relationMode := .default
            modelSuffix := "# \"0x1F\": "
            imports := some "- a\n\n  b  "
            enumFile := some "007"
            indentSize := 18446744073709551615 } ∧
      ofJsonText
          (Json.object
            [ ("relationModel", .string "false"),
              ("indentSize", .string "\t4 "),
              ("note", .bool true),
              ("singleQuote", .string "true") ]).compact =
        .ok { relationMode := .disabled, indentSize := 4, singleQuote := true } := by
  refine ⟨(options_read_back.1 _ (by decide)).2.2.2.2, ?_⟩
  refine (options_read_back.2
    (Json.object
      [ ("relationModel", .bool false),
        ("indentSize", .nat 4),
        ("note", .bool true),
        ("singleQuote", .bool true) ]).compact
    _ _ _ (Json.read_compact rfl) ?_ ?_).2 _ (Json.read_compact rfl)
  · rw [ofJsonText, Json.read_compact rfl]
    rfl
  · refine .cons ⟨rfl, .inr ⟨.relationMode, rfl, .flag rfl false⟩⟩ (.cons ⟨rfl, .inr ?_⟩
      (.cons ⟨rfl, .inl rfl⟩ (.cons ⟨rfl, .inr ⟨.singleQuote, rfl, .flag rfl true⟩⟩ .nil)))
    have tab : "\t".toList.all Text.isWhiteSpace := rfl
    have space : " ".toList.all Text.isWhiteSpace := rfl
    exact ⟨.indentSize, rfl, .padded (List.all_eq_true.1 tab) (List.all_eq_true.1 space) 4⟩

end Configuration
end EntitySchema
