import EntitySchema.Proofs.JsonText

/-!
# Written JSON values

Both printers spell every value whose parts are readable and whose numbers are whole numbers that
fit 64 bits, so such a value is read back from what either of them writes.
-/

namespace EntitySchema
namespace Json

open Reader

/-- To prove a property of a value, it may be assumed of the items and the entries in it. -/
@[elab_as_elim, induction_eliminator]
theorem inductionOn
    {motive : Json → Prop}
    (value : Json)
    (null : motive .null)
    (bool : ∀ value, motive (.bool value))
    (number : ∀ value, motive (.number value))
    (string : ∀ text, motive (.string text))
    (array : ∀ items, (∀ item ∈ items, motive item) → motive (.array items))
    (object : ∀ entries : List (String × Json), (∀ entry ∈ entries, motive entry.2) →
      motive (.object entries))
    (unreadable : ∀ fault, motive (.unreadable fault)) :
    motive value :=
  @Json.rec motive (fun items => ∀ item ∈ items, motive item)
    (fun entries => ∀ entry ∈ entries, motive entry.2) (fun entry => motive entry.2)
    null bool number string array object unreadable
    (fun _ member => absurd member List.not_mem_nil)
    (fun _ _ head rest => List.forall_mem_cons.2 ⟨head, rest⟩)
    (fun _ member => absurd member List.not_mem_nil)
    (fun _ _ head rest => List.forall_mem_cons.2 ⟨head, rest⟩)
    (fun _ _ found => found)
    value

/-- Whether a part of a value has one spelling only: it is readable, and a number is a whole number
that fits 64 bits. -/
def hasSpelling : Json -> Bool
  | .number (.natural value) => value < Nat.pow 2 64
  | .number _ => false
  | .unreadable _ => false
  | _ => true

/-- Whether both printers spell a value. -/
def isSpellable (value : Json) : Bool :=
  value.everyLeaf hasSpelling

/-- An array is spelled exactly when all its items are. -/
theorem isSpellable_array (items : List Json) :
    (Json.array items).isSpellable = items.all isSpellable := by
  unfold isSpellable
  rw [everyLeaf, everyItemLeaf_eq]

/-- An object is spelled exactly when the values of all its entries are. -/
theorem isSpellable_object (entries : List (String × Json)) :
    (Json.object entries).isSpellable = entries.all fun entry => entry.2.isSpellable := by
  unfold isSpellable
  rw [everyLeaf, everyEntryLeaf_eq]

theorem isSpellable_string (text : String) : (Json.string text).isSpellable := rfl

theorem isSpellable_bool (value : Bool) : (Json.bool value).isSpellable := rfl

/-- A list is written as an array that is spelled if every item is written as a value that is. -/
theorem isSpellable_map
    {α : Type}
    {write : α → Json}
    (spellable : ∀ item, (write item).isSpellable)
    (items : List α) :
    (Json.array (items.map write)).isSpellable := by
  rw [isSpellable_array, List.all_map, List.all_eq_true]
  exact fun item _ => spellable item

/-- More separators may follow what stands before an item or an entry. -/
theorem IsLead.append
    {first : Bool}
    {lead gap : List Char}
    (isLead : IsLead first lead)
    (isGap : IsGap gap) :
    IsLead first (lead ++ gap) := by
  cases isLead with
  | first isGapBefore => exact .first (isGapBefore.append isGap)
  | later isGapBefore isGapAfter =>
      rw [List.append_assoc, List.cons_append]
      exact .later isGapBefore (isGapAfter.append isGap)

theorem isLead_comma : IsLead false [','] :=
  .later isGap_nil isGap_nil

/-- An entry with its colon right behind the key. -/
theorem SpellsEntries.entry_colon
    {first : Bool}
    {lead after text more : List Char}
    {value : Json}
    {rest : List (String × Json)}
    (isLead : IsLead first lead)
    (key : String)
    (isGap : IsGap after)
    (spelled : Spells text value)
    (spelledRest : SpellsEntries false more rest) :
    SpellsEntries first (lead ++ ((stringText key).toList ++ ([':'] ++ (after ++ (text ++ more)))))
      ((key, value) :: rest) :=
  -- The empty gap before the colon is given, since it cannot be found by unification.
  @SpellsEntries.entry first lead [] after text more key value rest isLead isGap_nil isGap spelled
    spelledRest

theorem spells_stringText (text : String) : Spells (stringText text).toList (.string text) := by
  unfold stringText
  rw [String.toList_ofList]
  exact .string text

/-- Items with nothing but commas between them are spelled up to the bracket behind them. -/
theorem spellsItems_compact
    {items : List Json}
    (nonempty : items ≠ [])
    (spelled : ∀ item ∈ items, Spells item.compact.toList item)
    {first : Bool}
    {lead : List Char}
    (isLead : IsLead first lead) :
    SpellsItems first (lead ++ ((compactItems items).toList ++ [']'])) items := by
  induction items generalizing first lead with
  | nil => exact absurd rfl nonempty
  | cons item rest inductionHypothesis =>
      rw [List.forall_mem_cons] at spelled
      cases rest with
      | nil => exact .item isLead spelled.1 (.close isGap_nil)
      | cons next others =>
          have more := inductionHypothesis (List.cons_ne_nil _ _) spelled.2 isLead_comma
          have comma : ",".toList = [','] := rfl
          rw [compactItems]
          · simp only [String.toList_append, List.append_assoc, comma]
            exact .item isLead spelled.1 more
          · rintro ⟨⟩

/-- Entries with nothing but commas between them are spelled up to the brace behind them. -/
theorem spellsEntries_compact
    {entries : List (String × Json)}
    (nonempty : entries ≠ [])
    (spelled : ∀ entry ∈ entries, Spells entry.2.compact.toList entry.2)
    {first : Bool}
    {lead : List Char}
    (isLead : IsLead first lead) :
    SpellsEntries first (lead ++ ((compactEntries entries).toList ++ ['\x7d'])) entries := by
  have colon : ":".toList = [':'] := rfl
  induction entries generalizing first lead with
  | nil => exact absurd rfl nonempty
  | cons entry rest inductionHypothesis =>
      rw [List.forall_mem_cons] at spelled
      cases rest with
      | nil =>
          have written := SpellsEntries.entry_colon isLead entry.1 isGap_nil spelled.1
            (.close isGap_nil)
          simp only [compactEntries, String.toList_append, List.append_assoc, colon]
          exact written
      | cons next others =>
          have more := inductionHypothesis (List.cons_ne_nil _ _) spelled.2 isLead_comma
          have written := SpellsEntries.entry_colon isLead entry.1 isGap_nil spelled.1 more
          have comma : ",".toList = [','] := rfl
          rw [compactEntries]
          · simp only [String.toList_append, List.append_assoc, colon, comma]
            exact written
          · rintro ⟨⟩

/-- The text of a value on one line spells it. -/
theorem spells_compact
    {value : Json}
    (spellable : value.isSpellable) :
    Spells value.compact.toList value := by
  unfold isSpellable at spellable
  induction value with
  | null => exact .null
  | bool value => cases value with
    | false => exact .flag false
    | true => exact .flag true
  | number value =>
      cases value with
      | natural value =>
          rw [compact, Number.text, EntitySchema.Numeral.toList_toString]
          exact .natural (of_decide_eq_true spellable)
      | negative magnitude => cases spellable
      | real value => cases spellable
  | string text =>
      rw [compact]
      exact spells_stringText text
  | array items inductionHypothesis =>
      rw [everyLeaf, everyItemLeaf_eq, List.all_eq_true] at spellable
      have spelled : ∀ item ∈ items, Spells item.compact.toList item :=
        fun item member => inductionHypothesis item member (spellable item member)
      rw [compact, String.toList_append, String.toList_append, List.append_assoc]
      by_cases empty : items = []
      · subst empty
        exact .array (.close isGap_nil)
      · exact .array (spellsItems_compact empty spelled (.first isGap_nil))
  | object entries inductionHypothesis =>
      rw [everyLeaf, everyEntryLeaf_eq, List.all_eq_true] at spellable
      have spelled : ∀ entry ∈ entries, Spells entry.2.compact.toList entry.2 :=
        fun entry member => inductionHypothesis entry member (spellable entry member)
      rw [compact, String.toList_append, String.toList_append, List.append_assoc]
      by_cases empty : entries = []
      · subst empty
        exact .object (.close isGap_nil)
      · exact .object (spellsEntries_compact empty spelled (.first isGap_nil))
  | unreadable fault => cases spellable

/-- The start of a new line, indentation included, only separates tokens. -/
theorem isGap_prettyBreak (level : Nat) : IsGap (prettyBreak level).toList := by
  intro character member
  unfold prettyBreak at member
  rw [String.toList_append, List.mem_append] at member
  rcases member with member | member
  · obtain rfl : character = '\n' := List.mem_singleton.1 member
    rfl
  · rw [String.toList_ofList] at member
    obtain rfl : character = ' ' := List.eq_of_mem_replicate member
    rfl

/-- Items on lines of their own are spelled up to the bracket behind them. -/
theorem spellsItems_pretty
    {items : List Json}
    (nonempty : items ≠ [])
    {level : Nat}
    (spelled : ∀ item ∈ items, Spells (item.prettyAt level).toList item)
    {first : Bool}
    {lead gap : List Char}
    (isLead : IsLead first lead)
    (isGap : IsGap gap) :
    SpellsItems first (lead ++ ((prettyItems level items).toList ++ (gap ++ [']']))) items := by
  induction items generalizing first lead with
  | nil => exact absurd rfl nonempty
  | cons item rest inductionHypothesis =>
      rw [List.forall_mem_cons] at spelled
      have isLeadOfLine := isLead.append (isGap_prettyBreak level)
      cases rest with
      | nil =>
          have written := SpellsItems.item isLeadOfLine spelled.1 (.close isGap)
          simp only [prettyItems, String.toList_append, List.append_assoc] at written ⊢
          exact written
      | cons next others =>
          have more := inductionHypothesis (List.cons_ne_nil _ _) spelled.2 isLead_comma
          have written := SpellsItems.item isLeadOfLine spelled.1 more
          have comma : ",".toList = [','] := rfl
          rw [prettyItems]
          · simp only [String.toList_append, List.append_assoc, comma] at written ⊢
            exact written
          · rintro ⟨⟩

/-- Entries on lines of their own are spelled up to the brace behind them. -/
theorem spellsEntries_pretty
    {entries : List (String × Json)}
    (nonempty : entries ≠ [])
    {level : Nat}
    (spelled : ∀ entry ∈ entries, Spells (entry.2.prettyAt level).toList entry.2)
    {first : Bool}
    {lead gap : List Char}
    (isLead : IsLead first lead)
    (isGap : IsGap gap) :
    SpellsEntries first (lead ++ ((prettyEntries level entries).toList ++ (gap ++ ['\x7d'])))
      entries := by
  have colon : ": ".toList = [':'] ++ [' '] := rfl
  have isSpace : IsGap [' '] := by
    rintro character member
    rw [List.mem_singleton.1 member]
    rfl
  induction entries generalizing first lead with
  | nil => exact absurd rfl nonempty
  | cons entry rest inductionHypothesis =>
      rw [List.forall_mem_cons] at spelled
      have isLeadOfLine := isLead.append (isGap_prettyBreak level)
      cases rest with
      | nil =>
          have written := SpellsEntries.entry_colon isLeadOfLine entry.1 isSpace spelled.1
            (.close isGap)
          simp only [prettyEntries, String.toList_append, List.append_assoc, colon] at written ⊢
          exact written
      | cons next others =>
          have more := inductionHypothesis (List.cons_ne_nil _ _) spelled.2 isLead_comma
          have written := SpellsEntries.entry_colon isLeadOfLine entry.1 isSpace spelled.1 more
          have comma : ",".toList = [','] := rfl
          rw [prettyEntries]
          · simp only [String.toList_append, List.append_assoc, colon, comma] at written ⊢
            exact written
          · rintro ⟨⟩

/-- The text of a value with one item or entry a line spells it. -/
theorem spells_prettyAt
    {value : Json}
    (spellable : value.isSpellable)
    (level : Nat) :
    Spells (value.prettyAt level).toList value := by
  induction value generalizing level with
  | array items inductionHypothesis =>
      unfold isSpellable at spellable
      rw [everyLeaf, everyItemLeaf_eq, List.all_eq_true] at spellable
      have spelled : ∀ item ∈ items, Spells (item.prettyAt (level + 1)).toList item :=
        fun item member => inductionHypothesis item member (spellable item member) (level + 1)
      by_cases empty : items = []
      · subst empty
        rw [prettyAt]
        exact .array (.close isGap_nil)
      · have written := spellsItems_pretty empty spelled (.first isGap_nil)
          (isGap_prettyBreak level)
        rw [prettyAt]
        · simp only [String.toList_append, List.append_assoc]
          exact .array written
        · exact empty
  | object entries inductionHypothesis =>
      unfold isSpellable at spellable
      rw [everyLeaf, everyEntryLeaf_eq, List.all_eq_true] at spellable
      have spelled : ∀ entry ∈ entries, Spells (entry.2.prettyAt (level + 1)).toList entry.2 :=
        fun entry member => inductionHypothesis entry member (spellable entry member) (level + 1)
      by_cases empty : entries = []
      · subst empty
        rw [prettyAt]
        exact .object (.close isGap_nil)
      · have written := spellsEntries_pretty empty spelled (.first isGap_nil)
          (isGap_prettyBreak level)
        rw [prettyAt]
        · simp only [String.toList_append, List.append_assoc]
          exact .object written
        · exact empty
  | _ =>
      rw [prettyAt]
      · exact spells_compact spellable
      all_goals simp

/-- A value is read back from its text on one line. -/
theorem read_compact
    {value : Json}
    (spellable : value.isSpellable) :
    Json.read value.compact = .ok value :=
  (spells_compact spellable).read

theorem read_pretty
    {value : Json}
    (spellable : value.isSpellable) :
    Json.read value.pretty = .ok value :=
  (spells_prettyAt spellable 0).read

end Json
end EntitySchema
