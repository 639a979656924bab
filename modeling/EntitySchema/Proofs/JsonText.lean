import EntitySchema.Json.Printer
import EntitySchema.Proofs.Lists
import EntitySchema.Proofs.Numerals
import Mathlib.Tactic.IntervalCases

/-!
# JSON text

A text spells a value when tokens for the value follow each other with nothing but separators
between them.  The reader finds the value in every text that spells it.  In turn, every whole number
that the reader finds fits 64 bits.
-/

namespace EntitySchema
namespace Json

open Reader

/-! ## Strings -/

/-- The code of a control character is read back from its four hexadecimal digits. -/
theorem readCodeUnit_fourHexDigits
    {code : Nat}
    (control : code < 0x20)
    (rest : List Char) :
    readCodeUnit (fourHexDigits code ++ rest) = .ok (code, rest) := by
  interval_cases code <;> rfl

/-- Inside a string, a visible character that is no quote and no backslash stands for itself. -/
theorem readCodes_plain
    {character : Char}
    (noQuote : character ≠ '"')
    (noEscape : character ≠ '\\')
    (visible : ¬ character.toNat < 0x20)
    (fuel : Nat)
    (reversed : List Nat)
    (rest : List Char) :
    readCodes (fuel + 1) reversed (character :: rest) =
      readCodes fuel (character.toNat :: reversed) rest := by
  rw [readCodes]
  · rw [if_neg visible]
  all_goals simp_all

/-- A written character is read as its code. -/
theorem readCodes_stringForm
    (character : Char)
    (fuel : Nat)
    (reversed : List Nat)
    (rest : List Char) :
    readCodes (fuel + 1) reversed (stringForm character ++ rest) =
      readCodes fuel (character.toNat :: reversed) rest := by
  unfold stringForm
  split
  case h_8 =>
    split_ifs with control
    · rw [List.cons_append, List.cons_append, readCodes, readCodeUnit_fourHexDigits control]
    · rw [List.singleton_append, readCodes_plain _ _ control] <;> assumption
  all_goals rfl

/-- The codes of a string are read up to its closing quote, behind those that were read before. -/
theorem readCodes_forms
    (characters : List Char)
    {fuel : Nat}
    (enough : characters.length < fuel)
    (reversed : List Nat)
    (rest : List Char) :
    readCodes fuel reversed (characters.flatMap stringForm ++ '"' :: rest) =
      .ok (reversed.reverse ++ characters.map Char.toNat, rest) := by
  induction characters generalizing fuel reversed with
  | nil =>
      cases fuel with
      | zero => simp at enough
      | succ fuel => simp [readCodes]
  | cons character others inductionHypothesis =>
      cases fuel with
      | zero => simp at enough
      | succ fuel =>
          rw [List.flatMap_cons, List.append_assoc, readCodes_stringForm,
            inductionHypothesis (by simpa using enough)]
          simp

/-- The code of a character is not one half of a pair of codes. -/
theorem not_surrogate (character : Char) :
    isHighSurrogate character.toNat = false ∧ isLowSurrogate character.toNat = false := by
  have valid := character.valid
  have code : character.toNat = character.val.toNat := rfl
  unfold UInt32.isValidChar Nat.isValidChar at valid
  unfold isHighSurrogate isLowSurrogate
  simp only [Bool.and_eq_false_iff, decide_eq_false_iff_not]
  omega

/-- The codes of characters are put together to these characters. -/
theorem assemble?_codes (characters : List Char) :
    assemble? (characters.map Char.toNat) = some characters := by
  induction characters with
  | nil => rfl
  | cons character others inductionHypothesis =>
      obtain ⟨notHigh, notLow⟩ := not_surrogate character
      cases others with
      | nil => simp [assemble?, notHigh, notLow]
      | cons next later =>
          rw [List.map_cons] at inductionHypothesis
          simp [assemble?, notHigh, notLow, inductionHypothesis]

theorem stringForm_length_pos (character : Char) : 0 < (stringForm character).length := by
  unfold stringForm
  split <;> try split
  all_goals simp

/-- A string is read back, and what follows its closing quote is left. -/
theorem readString_forms (text : String) (rest : List Char) :
    readString (text.toList.flatMap stringForm ++ '"' :: rest) = .ok (some text, rest) := by
  have enough : text.toList.length <
      (text.toList.flatMap stringForm ++ '"' :: rest).length + 1 := by
    have longer := List.length_le_flatMap stringForm_length_pos text.toList
    rw [List.length_append]
    omega
  unfold readString
  rw [readCodes_forms _ enough]
  simp [bind, Except.bind, assemble?_codes]

/-! ## Numerals -/

/-- A text before which a numeral ends. -/
def EndsNumeral (rest : List Char) : Prop :=
  ∀ character ∈ rest.head?,
    character.isDigit = false ∧ character ≠ '.' ∧ character ≠ 'e' ∧ character ≠ 'E'

theorem endsNumeral_nil : EndsNumeral [] := by
  rintro _ ⟨⟩

/-- All digits up to the end of a numeral are read. -/
theorem EndsNumeral.readDigits
    {rest : List Char}
    (ends : EndsNumeral rest)
    {digits : List Char}
    (proper : ∀ digit ∈ digits, digit.isDigit)
    (nonempty : digits ≠ []) :
    Reader.readDigits (digits ++ rest) = .ok (digits, rest) := by
  have stops : rest.takeWhile Char.isDigit = [] ∧ rest.dropWhile Char.isDigit = rest := by
    cases rest with
    | nil => exact ⟨rfl, rfl⟩
    | cons character others =>
        have stop := (ends character rfl).1
        simp [stop]
  unfold Reader.readDigits
  rw [List.takeWhile_append_of_pos proper, List.dropWhile_append_of_pos proper, stops.1, stops.2,
    List.append_nil]
  cases digits with
  | nil => exact absurd rfl nonempty
  | cons digit others => rfl

/-- Where a numeral ends there is no fraction, and no exponent either. -/
theorem EndsNumeral.readFraction
    {rest : List Char}
    (ends : EndsNumeral rest) :
    Reader.readFraction rest = .ok (none, rest) := by
  unfold Reader.readFraction
  split
  · next text => exact absurd rfl (ends '.' rfl).2.1
  · rfl

theorem EndsNumeral.readExponent
    {rest : List Char}
    (ends : EndsNumeral rest) :
    Reader.readExponent rest = .ok (none, rest) := by
  cases rest with
  | nil => rfl
  | cons character others =>
      obtain ⟨-, -, notSmall, notLarge⟩ := ends character rfl
      unfold Reader.readExponent
      simp [notSmall, notLarge]

/-- The digits of a number that fits are read as the number. -/
theorem readNumeral_toDigits
    {value : Nat}
    (fits : value < Nat.pow 2 64)
    {rest : List Char}
    (ends : EndsNumeral rest) :
    readNumeral false (Nat.toDigits 10 value ++ rest) = .ok (.nat value, rest) := by
  have whole : readWhole (Nat.toDigits 10 value ++ rest) = .ok (Nat.toDigits 10 value, rest) := by
    unfold readWhole
    rw [ends.readDigits (fun _ => EntitySchema.Numeral.isDigit_of_mem) Nat.toDigits_ne_nil]
    simp only [bind, Except.bind]
    split
    · next shape => cases EntitySchema.Numeral.toDigits_of_zero_cons shape
    · rfl
  have absorbed : Numeral.absorb 0 (Nat.toDigits 10 value) = (value, []) := by
    rw [Numeral.absorb_eq, Nat.ofDigitChars_ten_toDigits]
    rwa [Nat.ofDigitChars_ten_toDigits]
  unfold readNumeral
  simp only [whole, ends.readFraction, ends.readExponent, bind, Except.bind]
  simp [ofNumeral, Numeral.number?, absorbed, nat]

/-! ## Texts that spell a value -/

/-- Text that only separates tokens. -/
def IsGap (text : List Char) : Prop :=
  ∀ character ∈ text, isSeparator character

/-- What stands before an item or an entry: separators, and a comma unless it is the first one. -/
inductive IsLead : Bool → List Char → Prop
  | first {gap : List Char} : IsGap gap → IsLead true gap
  | later {before after : List Char} : IsGap before → IsGap after →
      IsLead false (before ++ ',' :: after)

mutual

/-- A text spells a value. -/
inductive Spells : List Char → Json → Prop
  | null : Spells ['n', 'u', 'l', 'l'] .null
  | flag (value : Bool) : Spells (toString value).toList (.bool value)
  | natural {value : Nat} : value < Nat.pow 2 64 → Spells (Nat.toDigits 10 value) (.nat value)
  | string (text : String) :
      Spells ('"' :: text.toList.flatMap stringForm ++ ['"']) (.string text)
  | array {text : List Char} {items : List Json} :
      SpellsItems true text items → Spells ('[' :: text) (.array items)
  | object {text : List Char} {entries : List (String × Json)} :
      SpellsEntries true text entries → Spells ('\x7b' :: text) (.object entries)

/-- A text spells the items of an array up to its closing bracket, where the flag tells whether no
item comes before them. -/
inductive SpellsItems : Bool → List Char → List Json → Prop
  | close {first : Bool} {gap : List Char} : IsGap gap → SpellsItems first (gap ++ [']']) []
  | item {first : Bool} {lead text more : List Char} {value : Json} {rest : List Json} :
      IsLead first lead → Spells text value → SpellsItems false more rest →
        SpellsItems first (lead ++ (text ++ more)) (value :: rest)

/-- A text spells the entries of an object up to its closing brace, where the flag tells whether no
entry comes before them. -/
inductive SpellsEntries : Bool → List Char → List (String × Json) → Prop
  | close {first : Bool} {gap : List Char} : IsGap gap → SpellsEntries first (gap ++ ['\x7d']) []
  | entry {first : Bool} {lead before after text more : List Char} {key : String} {value : Json}
      {rest : List (String × Json)} :
      IsLead first lead → IsGap before → IsGap after → Spells text value →
        SpellsEntries false more rest →
          SpellsEntries first
            (lead ++ ((stringText key).toList ++ (before ++ ':' :: (after ++ (text ++ more)))))
            ((key, value) :: rest)

end

/-! ## Reading a spelled value -/

theorem isGap_nil : IsGap [] := by
  rintro _ ⟨⟩

theorem IsGap.append
    {before after : List Char}
    (isGap : IsGap before)
    (isGapAfter : IsGap after) :
    IsGap (before ++ after) := by
  intro character member
  rcases List.mem_append.1 member with member | member
  · exact isGap character member
  · exact isGapAfter character member

/-- Where a token is looked for, a gap makes no difference. -/
theorem IsGap.skipSeparators_append
    {gap : List Char}
    (isGap : IsGap gap)
    (text : List Char) :
    skipSeparators (gap ++ text) = skipSeparators text :=
  List.dropWhile_append_of_pos isGap

theorem skipSeparators_cons
    {character : Char}
    (noSeparator : isSeparator character = false)
    (rest : List Char) :
    skipSeparators (character :: rest) = character :: rest :=
  List.dropWhile_cons_of_neg (by simp [noSeparator])

theorem ne_of_isDigit
    {digit other : Char}
    (isDigit : digit.isDigit)
    (noDigit : other.isDigit = false) :
    digit ≠ other := by
  rintro rfl
  rw [isDigit] at noDigit
  cases noDigit

/-- A text that starts with a token other than one that ends or continues a list. -/
def StartsToken (text : List Char) : Prop :=
  ∃ character rest, text = character :: rest ∧ isSeparator character = false ∧
    character ≠ ']' ∧ character ≠ '\x7d' ∧ character ≠ ','

/-- Nothing of a token is skipped before it is read. -/
theorem StartsToken.skipSeparators
    {text : List Char}
    (starts : StartsToken text) :
    Reader.skipSeparators text = text := by
  obtain ⟨character, rest, rfl, noSeparator, -⟩ := starts
  exact skipSeparators_cons noSeparator rest

theorem StartsToken.append
    {text : List Char}
    (starts : StartsToken text)
    (rest : List Char) :
    StartsToken (text ++ rest) := by
  obtain ⟨character, others, rfl, properties⟩ := starts
  exact ⟨character, others ++ rest, rfl, properties⟩

theorem StartsToken.length_pos
    {text : List Char}
    (starts : StartsToken text) :
    0 < text.length := by
  obtain ⟨character, rest, rfl, -⟩ := starts
  exact Nat.succ_pos _

theorem startsToken_stringText (text : String) :
    StartsToken (stringText text).toList := by
  unfold stringText
  rw [String.toList_ofList]
  exact ⟨'"', _, rfl, by decide⟩

/-- What spells a value starts with a token, so nothing of it is skipped or taken for the end of a
list. -/
theorem Spells.startsToken
    {text : List Char}
    {value : Json}
    (spelled : Spells text value) :
    StartsToken text := by
  cases spelled with
  | null => exact ⟨'n', _, rfl, by decide⟩
  | flag value =>
      cases value with
      | false => exact ⟨'f', _, rfl, by decide⟩
      | true => exact ⟨'t', _, rfl, by decide⟩
  | @natural value fits =>
      obtain ⟨digit, rest, digits, isDigit⟩ := EntitySchema.Numeral.exists_digit_cons value
      refine ⟨digit, rest, digits, ?_, ?_, ?_, ?_⟩
      · simp [isSeparator, ne_of_isDigit isDigit]
      all_goals exact ne_of_isDigit isDigit (by decide)
  | string text => exact ⟨'"', _, rfl, by decide⟩
  | array spelled => exact ⟨'[', _, rfl, by decide⟩
  | object spelled => exact ⟨'\x7b', _, rfl, by decide⟩

/-- Where a value starts with a digit, a numeral is read. -/
theorem readValue_digit
    {digit : Char}
    (isDigit : digit.isDigit)
    (fuel : Nat)
    (rest : List Char)
    {gap : List Char}
    (isGap : IsGap gap) :
    readValue (fuel + 1) (gap ++ digit :: rest) = readNumeral false (digit :: rest) := by
  have noSeparator : isSeparator digit = false := by
    simp [isSeparator, ne_of_isDigit isDigit]
  rw [readValue, isGap.skipSeparators_append, skipSeparators_cons noSeparator]
  split
  case h_9 =>
    next shape =>
      obtain ⟨rfl, rfl⟩ := List.cons.inj shape
      rw [if_pos isDigit]
  all_goals simp_all

/-- Behind separators, and a comma where one is due, the next item is read. -/
theorem readItems_lead
    {first : Bool}
    {lead text : List Char}
    (isLead : IsLead first lead)
    (starts : StartsToken text)
    (fuel : Nat)
    (reversed : List Json) :
    readItems (fuel + 1) first reversed (lead ++ text) = readItem fuel reversed text := by
  have skipped := starts.skipSeparators
  obtain ⟨character, rest, rfl, -, noBracket, -, noComma⟩ := starts
  cases isLead with
  | first isGap =>
      rw [readItems, isGap.skipSeparators_append, skipped]
      simp [noBracket, noComma]
  | later isGap isGapAfter =>
      rw [List.append_assoc, readItems, isGap.skipSeparators_append, List.cons_append,
        skipSeparators_cons (by decide)]
      simp [isGapAfter.skipSeparators_append, skipped, noBracket]

/-- Behind separators, and a comma where one is due, the next entry is read. -/
theorem readEntries_lead
    {first : Bool}
    {lead text : List Char}
    (isLead : IsLead first lead)
    (starts : StartsToken text)
    (fuel : Nat)
    (reversed : List (Option String × Json)) :
    readEntries (fuel + 1) first reversed (lead ++ text) = readEntry fuel reversed text := by
  have skipped := starts.skipSeparators
  obtain ⟨character, rest, rfl, -, -, noBrace, noComma⟩ := starts
  cases isLead with
  | first isGap =>
      rw [readEntries, isGap.skipSeparators_append, skipped]
      simp [noBrace, noComma]
  | later isGap isGapAfter =>
      rw [List.append_assoc, readEntries, isGap.skipSeparators_append, List.cons_append,
        skipSeparators_cons (by decide)]
      simp [isGapAfter.skipSeparators_append, skipped]

/-- A key is read together with the colon after it. -/
theorem readKey_stringText
    (key : String)
    {gap : List Char}
    (isGap : IsGap gap)
    (rest : List Char) :
    readKey ((stringText key).toList ++ (gap ++ ':' :: rest)) = .ok (some key, rest) := by
  unfold stringText
  rw [String.toList_ofList, List.cons_append, List.cons_append, List.append_assoc,
    List.singleton_append]
  unfold readKey
  simp only [readString_forms, bind, Except.bind, isGap.skipSeparators_append]
  rw [skipSeparators_cons (by decide)]
  rfl

/-- A gap ends a numeral; an empty one leaves that to the text behind it. -/
theorem IsGap.endsNumeral
    {gap : List Char}
    (isGap : IsGap gap)
    {rest : List Char}
    (ends : EndsNumeral rest) :
    EndsNumeral (gap ++ rest) := by
  cases gap with
  | nil => exact ends
  | cons separator others =>
      rintro character ⟨⟩
      have isSeparator := isGap separator List.mem_cons_self
      unfold Reader.isSeparator at isSeparator
      simp only [Bool.or_eq_true, decide_eq_true_eq] at isSeparator
      rcases isSeparator with ((rfl | rfl) | rfl) | rfl <;> decide

/-- A numeral ends before a comma and before a closing bracket or brace. -/
theorem endsNumeral_cons
    {character : Char}
    (ends : character = ',' ∨ character = ']' ∨ character = '\x7d')
    (rest : List Char) :
    EndsNumeral (character :: rest) := by
  rintro _ ⟨⟩
  rcases ends with rfl | rfl | rfl <;> decide

/-- The comma before the next item or entry ends a numeral. -/
theorem IsLead.endsNumeral
    {lead : List Char}
    (isLead : IsLead false lead)
    (rest : List Char) :
    EndsNumeral (lead ++ rest) := by
  cases isLead with
  | later isGap isGapAfter =>
      rw [List.append_assoc]
      exact isGap.endsNumeral (endsNumeral_cons (.inl rfl) _)

theorem SpellsItems.length_pos
    {first : Bool}
    {text : List Char}
    {items : List Json}
    (spelled : SpellsItems first text items) :
    0 < text.length := by
  cases spelled with
  | close isGap => simp
  | item isLead spelledItem spelledRest =>
      have positive := spelledItem.startsToken.length_pos
      simp only [List.length_append]
      omega

theorem SpellsEntries.length_pos
    {first : Bool}
    {text : List Char}
    {entries : List (String × Json)}
    (spelled : SpellsEntries first text entries) :
    0 < text.length := by
  cases spelled with
  | close isGap => simp
  | entry isLead isGap isGapAfter spelledValue spelledRest =>
      simp only [List.length_append, List.length_cons]
      omega

/-- An item ends where the rest of its array starts, even if the item is a numeral. -/
theorem SpellsItems.endsNumeral
    {text : List Char}
    {items : List Json}
    (spelled : SpellsItems false text items)
    (rest : List Char) :
    EndsNumeral (text ++ rest) := by
  cases spelled with
  | close isGap =>
      rw [List.append_assoc]
      exact isGap.endsNumeral (endsNumeral_cons (.inr (.inl rfl)) rest)
  | item isLead spelledItem spelledRest =>
      rw [List.append_assoc]
      exact isLead.endsNumeral _

/-- An entry ends where the rest of its object starts, even if its value is a numeral. -/
theorem SpellsEntries.endsNumeral
    {text : List Char}
    {entries : List (String × Json)}
    (spelled : SpellsEntries false text entries)
    (rest : List Char) :
    EndsNumeral (text ++ rest) := by
  cases spelled with
  | close isGap =>
      rw [List.append_assoc]
      exact isGap.endsNumeral (endsNumeral_cons (.inr (.inr rfl)) rest)
  | entry isLead isGap isGapAfter spelledValue spelledRest =>
      rw [List.append_assoc]
      exact isLead.endsNumeral _

/-- Entries that all have a key make an object, in the order in which they were read. -/
theorem objectValue_some (entries : List (String × Json)) :
    objectValue (entries.map fun entry => (some entry.1, entry.2)).reverse = .object entries := by
  have named : (entries.map fun entry => (some entry.1, entry.2)).mapM
      (fun entry => entry.1.map fun key => (key, entry.2)) = some entries := by
    induction entries with
    | nil => rfl
    | cons entry others inductionHypothesis => simp [inductionHypothesis]
  unfold objectValue
  rw [List.reverse_reverse, named]

mutual

/-- A spelled value is found after any separators, and what follows it is left. -/
theorem Spells.readValue
    {text : List Char}
    {value : Json}
    (spelled : Spells text value)
    {gap rest : List Char}
    (isGap : IsGap gap)
    (ends : EndsNumeral rest)
    {fuel : Nat}
    (enough : 2 * text.length ≤ fuel) :
    Reader.readValue fuel (gap ++ (text ++ rest)) = .ok (value, rest) := by
  have starts := (spelled.startsToken.append rest).skipSeparators
  obtain ⟨fuel, rfl⟩ : ∃ fewer, fuel = fewer + 1 := by
    obtain ⟨character, others, rfl, -⟩ := spelled.startsToken
    rw [List.length_cons] at enough
    exact ⟨fuel - 1, by omega⟩
  cases spelled with
  | null =>
      rw [Reader.readValue, isGap.skipSeparators_append, starts]
      rfl
  | flag value =>
      rw [Reader.readValue, isGap.skipSeparators_append, starts]
      cases value <;> rfl
  | @natural value fits =>
      obtain ⟨digit, others, digits, isDigit⟩ := EntitySchema.Numeral.exists_digit_cons value
      have numeral := readNumeral_toDigits fits ends
      rw [digits, List.cons_append] at numeral ⊢
      rw [readValue_digit isDigit fuel _ isGap, numeral]
  | string text =>
      rw [Reader.readValue, isGap.skipSeparators_append, starts]
      simp only [List.cons_append, List.append_assoc, List.nil_append, readString_forms]
      rfl
  | array spelledItems =>
      rw [Reader.readValue, isGap.skipSeparators_append, starts]
      rw [List.length_cons] at enough
      exact spelledItems.readItems [] rest (by omega)
  | object spelledEntries =>
      rw [Reader.readValue, isGap.skipSeparators_append, starts]
      rw [List.length_cons] at enough
      have found := spelledEntries.readEntries [] rest (show _ ≤ fuel by omega)
      rw [List.append_nil, objectValue_some] at found
      exact found
termination_by text.length

/-- Spelled items are read up to the bracket that closes their array. -/
theorem SpellsItems.readItems
    {first : Bool}
    {text : List Char}
    {items : List Json}
    (spelled : SpellsItems first text items)
    (reversed : List Json)
    (rest : List Char)
    {fuel : Nat}
    (enough : 2 * text.length ≤ fuel) :
    Reader.readItems fuel first reversed (text ++ rest) =
      .ok (.array (reversed.reverse ++ items), rest) := by
  cases spelled with
  | close isGap =>
      obtain ⟨fuel, rfl⟩ : ∃ fewer, fuel = fewer + 1 := by
        rw [List.length_append, List.length_singleton] at enough
        exact ⟨fuel - 1, by omega⟩
      rw [List.append_assoc, Reader.readItems, isGap.skipSeparators_append, List.singleton_append,
        skipSeparators_cons (by decide), List.append_nil]
      rfl
  | @item _ lead itemText moreText item others isLead spelledItem spelledRest =>
      have positive := spelledItem.startsToken.length_pos
      have positiveRest := spelledRest.length_pos
      simp only [List.length_append] at enough
      obtain ⟨fuel, rfl⟩ : ∃ fewer, fuel = fewer + 2 := ⟨fuel - 2, by omega⟩
      have found := spelledItem.readValue isGap_nil (spelledRest.endsNumeral rest)
        (show _ ≤ fuel by omega)
      have more := spelledRest.readItems (item :: reversed) rest (show _ ≤ fuel by omega)
      rw [List.nil_append] at found
      rw [List.append_assoc, List.append_assoc,
        readItems_lead isLead (spelledItem.startsToken.append _), readItem, found]
      dsimp only
      rw [more, List.reverse_cons, List.append_assoc, List.singleton_append]
termination_by text.length
decreasing_by
  all_goals
    subst_vars
    simp only [List.length_append]
    omega

/-- Spelled entries are read up to the brace that closes their object. -/
theorem SpellsEntries.readEntries
    {first : Bool}
    {text : List Char}
    {entries : List (String × Json)}
    (spelled : SpellsEntries first text entries)
    (reversed : List (Option String × Json))
    (rest : List Char)
    {fuel : Nat}
    (enough : 2 * text.length ≤ fuel) :
    Reader.readEntries fuel first reversed (text ++ rest) =
      .ok (objectValue ((entries.map fun entry => (some entry.1, entry.2)).reverse ++ reversed),
        rest) := by
  cases spelled with
  | close isGap =>
      obtain ⟨fuel, rfl⟩ : ∃ fewer, fuel = fewer + 1 := by
        rw [List.length_append, List.length_singleton] at enough
        exact ⟨fuel - 1, by omega⟩
      rw [List.append_assoc, Reader.readEntries, isGap.skipSeparators_append,
        List.singleton_append, skipSeparators_cons (by decide)]
      rfl
  | @entry _ lead before after valueText moreText key value others isLead isGap isGapAfter
      spelledValue spelledRest =>
      have positive := spelledValue.startsToken.length_pos
      have positiveRest := spelledRest.length_pos
      simp only [List.length_append, List.length_cons] at enough
      obtain ⟨fuel, rfl⟩ : ∃ fewer, fuel = fewer + 2 := ⟨fuel - 2, by omega⟩
      have found := spelledValue.readValue isGapAfter (spelledRest.endsNumeral rest)
        (show _ ≤ fuel by omega)
      have more := spelledRest.readEntries ((some key, value) :: reversed) rest
        (show _ ≤ fuel by omega)
      simp only [List.append_assoc, List.cons_append]
      rw [readEntries_lead isLead ((startsToken_stringText _).append _), readEntry,
        readKey_stringText _ isGap]
      dsimp only
      rw [found]
      dsimp only
      rw [more, List.map_cons, List.reverse_cons, List.append_assoc, List.singleton_append]
termination_by text.length
decreasing_by
  all_goals
    subst_vars
    simp only [List.length_append, List.length_cons]
    omega

end

/-- A document that spells a value is read as the value. -/
theorem Spells.read
    {text : String}
    {value : Json}
    (spelled : Spells text.toList value) :
    Json.read text = .ok value := by
  have found := spelled.readValue isGap_nil endsNumeral_nil
    (show _ ≤ 3 * text.toList.length + 3 by omega)
  rw [List.nil_append, List.append_nil] at found
  unfold Json.read
  simp only [found, bind, Except.bind]
  rfl

/-! ## Numbers of a document -/

mutual

/-- Whether every part of a value that is no array or object has a property. -/
def everyLeaf (property : Json -> Bool) : Json -> Bool
  | .array items => everyItemLeaf property items
  | .object entries => everyEntryLeaf property entries
  | leaf => property leaf

/-- Whether every part of the items has a property. -/
def everyItemLeaf (property : Json -> Bool) : List Json -> Bool
  | [] => true
  | item :: rest => item.everyLeaf property && everyItemLeaf property rest

/-- Whether every part of the values of the entries has a property. -/
def everyEntryLeaf (property : Json -> Bool) : List (String × Json) -> Bool
  | [] => true
  | (_, value) :: rest => value.everyLeaf property && everyEntryLeaf property rest

end

theorem everyItemLeaf_eq
    (property : Json → Bool)
    (items : List Json) :
    everyItemLeaf property items = items.all fun item => item.everyLeaf property := by
  induction items with
  | nil => rfl
  | cons item rest inductionHypothesis =>
      rw [everyItemLeaf, List.all_cons, inductionHypothesis]

theorem everyEntryLeaf_eq
    (property : Json → Bool)
    (entries : List (String × Json)) :
    everyEntryLeaf property entries = entries.all fun entry => entry.2.everyLeaf property := by
  induction entries with
  | nil => rfl
  | cons entry rest inductionHypothesis =>
      rw [everyEntryLeaf, List.all_cons, inductionHypothesis]

/-- Whether a whole number from zero up fits 64 bits. -/
def fitsWord : Json -> Bool
  | .number (.natural value) => value < Nat.pow 2 64
  | _ => true

/-- A whole number that does not fit 64 bits is read as a real number or not at all. -/
theorem fitsWord_ofNumeral (numeral : Numeral) : (ofNumeral numeral).everyLeaf fitsWord := by
  have real : ∀ found, numeral.real? = some found → (Json.number found).everyLeaf fitsWord := by
    intro found isReal
    unfold Numeral.real? at isReal
    obtain ⟨value, -, rfl⟩ := Option.map_eq_some_iff.1 isReal
    rfl
  unfold ofNumeral
  split
  · next found isNumber =>
      unfold Numeral.number? at isNumber
      split at isNumber
      · next absorbed =>
          split_ifs at isNumber
          · obtain rfl := Option.some.inj isNumber
            have fits := @Numeral.absorb_lt numeral.whole 0 (by decide)
            rw [absorbed] at fits
            exact decide_eq_true fits
          · obtain rfl := Option.some.inj isNumber
            rfl
          · exact real found isNumber
      · exact real found isNumber
  · rfl

/-- An object has no other values than the entries it is made of. -/
theorem fitsWord_objectValue
    {reversed : List (Option String × Json)}
    (fits : ∀ entry ∈ reversed, entry.2.everyLeaf fitsWord) :
    (objectValue reversed).everyLeaf fitsWord := by
  have kept : ∀ (given : List (Option String × Json)) (entries : List (String × Json)),
      (given.mapM fun entry => entry.1.map fun key => (key, entry.2)) = some entries →
        (∀ entry ∈ given, entry.2.everyLeaf fitsWord) →
          ∀ entry ∈ entries, entry.2.everyLeaf fitsWord := by
    intro given
    induction given with
    | nil =>
        rintro entries ⟨⟩ -
        simp
    | cons entry rest inductionHypothesis =>
        intro entries named fits
        rw [List.mapM_cons] at named
        obtain ⟨first, isFirst, named⟩ := Option.bind_eq_some_iff.1 named
        obtain ⟨others, areOthers, named⟩ := Option.bind_eq_some_iff.1 named
        obtain ⟨key, -, rfl⟩ := Option.map_eq_some_iff.1 isFirst
        obtain rfl := Option.some.inj named
        rw [List.forall_mem_cons] at fits ⊢
        exact ⟨fits.1, inductionHypothesis others areOthers fits.2⟩
  unfold objectValue
  split
  · next entries named =>
      rw [everyLeaf, everyEntryLeaf_eq, List.all_eq_true]
      exact kept _ entries named fun entry member => fits entry (List.mem_reverse.1 member)
  · rfl

/-- A word is read as the value it stands for, or not at all. -/
theorem readWord_eq_ok
    {value found : Json}
    {word text rest : List Char}
    (read : readWord value word text = .ok (found, rest)) :
    found = value := by
  induction word generalizing text with
  | nil =>
      cases read
      rfl
  | cons expected others inductionHypothesis =>
      cases text with
      | nil => cases read
      | cons character following =>
          rw [readWord] at read
          split_ifs at read
          exact inductionHypothesis read

theorem fitsWord_readNumeral
    {negative : Bool}
    {value : Json}
    {text rest : List Char}
    (read : readNumeral negative text = .ok (value, rest)) :
    value.everyLeaf fitsWord := by
  unfold readNumeral at read
  simp only [bind, Except.bind] at read
  split at read
  · cases read
  · split at read
    · cases read
    · split at read
      · cases read
      · obtain ⟨rfl, rfl⟩ := read
        exact fitsWord_ofNumeral _

mutual

/-- Every whole number from zero up that is read fits 64 bits. -/
theorem fitsWord_readValue : ∀ (fuel : Nat) {text rest : List Char} {value : Json},
    readValue fuel text = .ok (value, rest) → value.everyLeaf fitsWord
  | 0, _, _, _, read => by cases read
  | fuel + 1, text, rest, value, read => by
      rw [readValue] at read
      split at read
      · cases read
      · rw [readWord_eq_ok read]
        rfl
      · rw [readWord_eq_ok read]
        rfl
      · rw [readWord_eq_ok read]
        rfl
      · next following _ =>
          cases string : readString following with
          | error fault =>
              rw [string] at read
              cases read
          | ok found =>
              rw [string] at read
              obtain ⟨⟩ := read
              cases found.1 <;> rfl
      · exact fitsWord_readNumeral read
      · exact fitsWord_readItems fuel (fun _ member => absurd member List.not_mem_nil) read
      · exact fitsWord_readEntries fuel (fun _ member => absurd member List.not_mem_nil) read
      · split_ifs at read
        exact fitsWord_readNumeral read

/-- The numbers in an array fit if they do in the items that were read before. -/
theorem fitsWord_readItems : ∀ (fuel : Nat) {first : Bool} {reversed : List Json}
    {text rest : List Char} {value : Json}, (∀ item ∈ reversed, item.everyLeaf fitsWord) →
    readItems fuel first reversed text = .ok (value, rest) → value.everyLeaf fitsWord
  | 0, _, _, _, _, _, _, read => by cases read
  | fuel + 1, first, reversed, text, rest, value, fits, read => by
      rw [readItems] at read
      split at read
      · cases read
      · obtain ⟨⟩ := read
        rw [everyLeaf, everyItemLeaf_eq, List.all_eq_true]
        exact fun item member => fits item (List.mem_reverse.1 member)
      · split_ifs at read
        split at read
        · cases read
        · cases read
        · exact fitsWord_readItem fuel fits read
      · split_ifs at read
        exact fitsWord_readItem fuel fits read

theorem fitsWord_readItem : ∀ (fuel : Nat) {reversed : List Json} {text rest : List Char}
    {value : Json}, (∀ item ∈ reversed, item.everyLeaf fitsWord) →
    readItem fuel reversed text = .ok (value, rest) → value.everyLeaf fitsWord
  | 0, _, _, _, _, _, read => by cases read
  | fuel + 1, reversed, text, rest, value, fits, read => by
      rw [readItem] at read
      split at read
      · cases read
      · next item following found =>
          have fitsItem := fitsWord_readValue fuel found
          exact fitsWord_readItems fuel (List.forall_mem_cons.2 ⟨fitsItem, fits⟩) read

/-- The numbers in an object fit if they do in the entries that were read before. -/
theorem fitsWord_readEntries : ∀ (fuel : Nat) {first : Bool}
    {reversed : List (Option String × Json)} {text rest : List Char} {value : Json},
    (∀ entry ∈ reversed, entry.2.everyLeaf fitsWord) →
    readEntries fuel first reversed text = .ok (value, rest) → value.everyLeaf fitsWord
  | 0, _, _, _, _, _, _, read => by cases read
  | fuel + 1, first, reversed, text, rest, value, fits, read => by
      rw [readEntries] at read
      split at read
      · cases read
      · obtain ⟨⟩ := read
        exact fitsWord_objectValue fits
      · split_ifs at read
        exact fitsWord_readEntry fuel fits read
      · split_ifs at read
        exact fitsWord_readEntry fuel fits read

theorem fitsWord_readEntry : ∀ (fuel : Nat) {reversed : List (Option String × Json)}
    {text rest : List Char} {value : Json}, (∀ entry ∈ reversed, entry.2.everyLeaf fitsWord) →
    readEntry fuel reversed text = .ok (value, rest) → value.everyLeaf fitsWord
  | 0, _, _, _, _, _, read => by cases read
  | fuel + 1, reversed, text, rest, value, fits, read => by
      rw [readEntry] at read
      split at read
      · cases read
      · next key valueText _ =>
          split at read
          · cases read
          · next found following isFound =>
              have fitsValue := fitsWord_readValue fuel isFound
              have fitsAll : ∀ entry ∈ (key, found) :: reversed, entry.2.everyLeaf fitsWord :=
                List.forall_mem_cons.2 ⟨fitsValue, fits⟩
              exact fitsWord_readEntries fuel fitsAll read

end

/-- Every whole number from zero up in a document that is read fits 64 bits. -/
theorem fitsWord_read
    {text : String}
    {value : Json}
    (read : Json.read text = .ok value) :
    value.everyLeaf fitsWord := by
  unfold Json.read at read
  simp only [bind, Except.bind] at read
  split at read
  · cases read
  · next found isFound =>
      split at read
      · obtain ⟨⟩ := read
        exact fitsWord_readValue _ isFound
      · cases read

end Json
end EntitySchema
