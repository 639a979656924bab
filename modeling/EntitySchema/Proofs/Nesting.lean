import EntitySchema.Documentation.Segment
import EntitySchema.Proofs.Lists
import Mathlib.Data.List.DropRight

/-!
# Nesting of brackets

In a nested text every string literal is closed, and the brackets outside of literals are paired
with each other.  A bracket may have to be closed by one of its own kind, or any closing bracket
may do.  A reader that remembers the brackets still open decides whether a text is nested.
-/

namespace EntitySchema
namespace Documentation

/-- The bracket that closes an opening bracket of the same kind. -/
def closingOf (opening : Char) : Char :=
  if opening = '(' then ')' else if opening = '[' then ']' else '\x7d'

/-- Whether a character is neither a bracket nor a quote. -/
def isPlain (character : Char) : Bool :=
  !isQuote character && !isOpening character && !isClosing character

/-- Which closing brackets may close an opening bracket. -/
inductive Pairing
  /-- The one of the same kind. -/
  | byKind
  /-- Any of them. -/
  | byNumber
  deriving DecidableEq, Repr

/-- Whether an opening bracket may be closed by a closing bracket. -/
def Pairing.accepts : Pairing -> Char -> Char -> Bool
  | byKind, opening, closing => closing = closingOf opening
  | byNumber, _, _ => true

/-- The text between the quotes of a literal.  A backslash takes the next character with it. -/
inductive LiteralBody (quote : Char) : List Char -> Prop
  | nil : LiteralBody quote []
  | plain {character : Char} {rest : List Char} :
      character ≠ quote -> character ≠ '\\' -> LiteralBody quote rest ->
        LiteralBody quote (character :: rest)
  | escaped (character : Char) {rest : List Char} :
      LiteralBody quote rest -> LiteralBody quote ('\\' :: character :: rest)

/-- Literals are closed and brackets outside of literals are paired. -/
inductive Nested (pairing : Pairing) : List Char -> Prop
  | nil : Nested pairing []
  | plain {character : Char} {rest : List Char} :
      isPlain character -> Nested pairing rest -> Nested pairing (character :: rest)
  | literal {quote : Char} {body rest : List Char} :
      isQuote quote -> LiteralBody quote body -> Nested pairing rest ->
        Nested pairing (quote :: (body ++ quote :: rest))
  | bracket {opening closing : Char} {inner rest : List Char} :
      isOpening opening -> isClosing closing -> pairing.accepts opening closing ->
        Nested pairing inner -> Nested pairing rest ->
          Nested pairing (opening :: (inner ++ closing :: rest))

/-! ## Kinds of characters -/

theorem isPlain_iff
    {character : Char} :
    isPlain character ↔
      isQuote character = false ∧ isOpening character = false ∧ isClosing character = false := by
  simp [isPlain, and_assoc]

/-- A quote is not a bracket. -/
theorem isQuote_cases
    {quote : Char}
    (opens : isQuote quote) :
    isOpening quote = false ∧ isClosing quote = false ∧ quote ≠ '\\' := by
  simp only [isQuote, Bool.or_eq_true, decide_eq_true_eq] at opens
  rcases opens with (rfl | rfl) | rfl <;> decide

theorem isOpening_cases
    {opening : Char}
    (opens : isOpening opening) :
    isQuote opening = false ∧ isClosing opening = false := by
  simp only [isOpening, Bool.or_eq_true, decide_eq_true_eq] at opens
  rcases opens with (rfl | rfl) | rfl <;> decide

/-! ## Reading -/

/-- What a reader of a text remembers. -/
structure Reading where
  /-- Where it stands with respect to literals. -/
  literal : LiteralState
  /-- The brackets that are still open, the innermost one first. -/
  unclosed : List Char
  deriving DecidableEq, Repr

namespace Reading

/-- Outside of literals, with no open bracket. -/
def start : Reading where
  literal := .outside
  unclosed := []

/-- What the reader remembers after one more character.  It stops at a closing bracket that closes
nothing. -/
def next (pairing : Pairing) (reading : Reading) (character : Char) : Option Reading :=
  if reading.literal = .outside && isClosing character then
    match reading.unclosed with
    | [] => none
    | opening :: outer =>
        if pairing.accepts opening character then some { reading with unclosed := outer } else none
  else if reading.literal = .outside && isOpening character then
    some { reading with unclosed := character :: reading.unclosed }
  else
    some { reading with literal := reading.literal.next character }

/-- What the reader remembers after a text. -/
def after (pairing : Pairing) (reading : Reading) (text : List Char) : Option Reading :=
  text.foldlM (next pairing) reading

variable
  {pairing : Pairing}
  {unclosed : List Char}

@[simp] theorem after_nil (reading : Reading) : after pairing reading [] = some reading := rfl

theorem after_cons
    (reading : Reading)
    (character : Char)
    (rest : List Char) :
    after pairing reading (character :: rest) =
      (next pairing reading character).bind fun following => after pairing following rest :=
  List.foldlM_cons

theorem after_append
    (reading : Reading)
    (first second : List Char) :
    after pairing reading (first ++ second) =
      (after pairing reading first).bind fun following => after pairing following second :=
  List.foldlM_append

theorem next_plain
    {character : Char}
    (plain : isPlain character) :
    next pairing ⟨.outside, unclosed⟩ character = some ⟨.outside, unclosed⟩ := by
  obtain ⟨quote, opening, closing⟩ := isPlain_iff.mp plain
  simp [next, quote, opening, closing, LiteralState.next]

theorem next_quote
    {quote : Char}
    (opens : isQuote quote) :
    next pairing ⟨.outside, unclosed⟩ quote = some ⟨.inside quote, unclosed⟩ := by
  obtain ⟨opening, closing, -⟩ := isQuote_cases opens
  simp [next, opens, opening, closing, LiteralState.next]

theorem next_opening
    {opening : Char}
    (opens : isOpening opening) :
    next pairing ⟨.outside, unclosed⟩ opening = some ⟨.outside, opening :: unclosed⟩ := by
  obtain ⟨-, closing⟩ := isOpening_cases opens
  simp [next, opens, closing]

theorem next_closing
    {opening closing : Char}
    (closes : isClosing closing) :
    next pairing ⟨.outside, opening :: unclosed⟩ closing =
      if pairing.accepts opening closing then some ⟨.outside, unclosed⟩ else none := by
  simp [next, closes]

/-- Inside a literal brackets are not looked at. -/
theorem next_of_ne_outside
    {literal : LiteralState}
    (within : literal ≠ .outside)
    (character : Char) :
    next pairing ⟨literal, unclosed⟩ character = some ⟨literal.next character, unclosed⟩ := by
  simp [next, within]

/-- A literal is read up to the quote that closes it. -/
theorem after_literal
    {quote : Char}
    {body : List Char}
    (opens : isQuote quote)
    (literal : LiteralBody quote body) :
    after pairing ⟨.inside quote, unclosed⟩ (body ++ [quote]) = some ⟨.outside, unclosed⟩ := by
  induction literal with
  | nil =>
      have notEscape := (isQuote_cases opens).2.2
      rw [List.nil_append, after_cons, next_of_ne_outside (by simp)]
      simp [LiteralState.next, notEscape]
  | plain different notEscape _ inductionHypothesis =>
      rw [List.cons_append, after_cons, next_of_ne_outside (by simp)]
      simpa [LiteralState.next, different, notEscape] using inductionHypothesis
  | escaped character _ inductionHypothesis =>
      rw [List.cons_append, List.cons_append, after_cons, next_of_ne_outside (by simp),
        Option.bind_some, after_cons, next_of_ne_outside (by simp [LiteralState.next])]
      simpa [LiteralState.next] using inductionHypothesis

/-- A nested text leaves the reader as it was, whatever brackets are open around it. -/
theorem after_nested
    {text : List Char}
    (nested : Nested pairing text) :
    after pairing ⟨.outside, unclosed⟩ text = some ⟨.outside, unclosed⟩ := by
  induction nested generalizing unclosed with
  | nil => rfl
  | plain plain _ inductionHypothesis =>
      rw [after_cons, next_plain plain]
      exact inductionHypothesis
  | @literal quote body rest opens literal _ inductionHypothesis =>
      have closed : body ++ quote :: rest = (body ++ [quote]) ++ rest := by simp
      rw [after_cons, next_quote opens, Option.bind_some, closed, after_append,
        after_literal opens literal]
      exact inductionHypothesis
  | bracket opens closes accepted _ _ innerHypothesis restHypothesis =>
      rw [after_cons, next_opening opens, Option.bind_some, after_append, innerHypothesis,
        Option.bind_some, after_cons, next_closing closes, if_pos accepted]
      exact restHypothesis

end Reading

/-! ## From reading back to nesting -/

/-- A text closes the given brackets one after the other, the innermost one first, and what stands
before, between and behind the closing brackets is nested. -/
inductive ClosesAll (pairing : Pairing) : List Char -> List Char -> Prop
  | done {text : List Char} : Nested pairing text -> ClosesAll pairing [] text
  | close {opening closing : Char} {unclosed text rest : List Char} :
      Nested pairing text -> isClosing closing -> pairing.accepts opening closing ->
        ClosesAll pairing unclosed rest ->
          ClosesAll pairing (opening :: unclosed) (text ++ closing :: rest)

variable
  {pairing : Pairing}
  {unclosed text : List Char}

/-- What can be put in front of every nested text can be put in front of the first one. -/
theorem ClosesAll.prepend
    {piece : List Char}
    (closes : ClosesAll pairing unclosed text)
    (preserves :
      ∀ {nestedText}, Nested pairing nestedText → Nested pairing (piece ++ nestedText)) :
    ClosesAll pairing unclosed (piece ++ text) := by
  cases closes with
  | done nested => exact .done (preserves nested)
  | close nested closing accepted later =>
      rw [← List.append_assoc]
      exact .close (preserves nested) closing accepted later

theorem ClosesAll.cons_plain
    {character : Char}
    (plain : isPlain character)
    (closes : ClosesAll pairing unclosed text) :
    ClosesAll pairing unclosed (character :: text) := by
  have inFront : ClosesAll pairing unclosed ([character] ++ text) :=
    closes.prepend (Nested.plain plain)
  exact inFront

theorem ClosesAll.cons_literal
    {quote : Char}
    {body : List Char}
    (opens : isQuote quote)
    (literal : LiteralBody quote body)
    (closes : ClosesAll pairing unclosed text) :
    ClosesAll pairing unclosed (quote :: (body ++ quote :: text)) := by
  have inFront : ClosesAll pairing unclosed ((quote :: (body ++ [quote])) ++ text) := by
    refine closes.prepend ?_
    intro nestedText nested
    simpa using Nested.literal opens literal nested
  simpa using inFront

/-- An opening bracket takes the first closing bracket with what stands before it. -/
theorem ClosesAll.cons_opening
    {opening : Char}
    (opens : isOpening opening)
    (closes : ClosesAll pairing (opening :: unclosed) text) :
    ClosesAll pairing unclosed (opening :: text) := by
  cases closes with
  | @close _ closing _ inner rest nested closingBracket accepted later =>
      have inFront :
          ClosesAll pairing unclosed ((opening :: (inner ++ [closing])) ++ rest) := by
        refine later.prepend ?_
        intro nestedText behind
        simpa using Nested.bracket opens closingBracket accepted nested behind
      simpa using inFront

/-- A text brings a reader back to the start: it ends the literal that the reader is in and closes
the brackets that are open. -/
def Finishes (pairing : Pairing) (reading : Reading) (text : List Char) : Prop :=
  match reading.literal with
  | .outside => ClosesAll pairing reading.unclosed text
  | .inside quote =>
      ∃ body rest,
        text = body ++ quote :: rest ∧ LiteralBody quote body ∧
          ClosesAll pairing reading.unclosed rest
  | .escaped quote =>
      ∃ character body rest,
        text = character :: (body ++ quote :: rest) ∧ LiteralBody quote body ∧
          ClosesAll pairing reading.unclosed rest

/-- Before a character that a reader accepts, the text still brings the reader back. -/
theorem finishes_cons
    {reading following : Reading}
    {character : Char}
    (step : reading.next pairing character = some following)
    (finishes : Finishes pairing following text) :
    Finishes pairing reading (character :: text) := by
  obtain ⟨literal, unclosed⟩ := reading
  cases literal with
  | outside =>
      -- Outside of literals the kind of the character decides which rule of nesting applies.
      by_cases closes : isClosing character
      · cases unclosed with
        | nil => simp [Reading.next, closes] at step
        | cons opening outer =>
            rw [Reading.next_closing closes] at step
            split_ifs at step with accepted
            cases step
            exact .close .nil closes accepted finishes
      · by_cases opens : isOpening character
        · rw [Reading.next_opening opens] at step
          cases step
          exact ClosesAll.cons_opening opens finishes
        · by_cases quotes : isQuote character
          · rw [Reading.next_quote quotes] at step
            cases step
            obtain ⟨body, rest, rfl, literal, later⟩ := finishes
            exact later.cons_literal quotes literal
          · have plain : isPlain character := by
              simp [isPlain, closes, opens, quotes]
            rw [Reading.next_plain plain] at step
            cases step
            exact ClosesAll.cons_plain plain finishes
  | inside quote =>
      rw [Reading.next_of_ne_outside (by simp)] at step
      cases step
      simp only [Finishes, LiteralState.next] at finishes
      split_ifs at finishes with escape closes
      · obtain ⟨escaped, body, rest, rfl, literal, later⟩ := finishes
        exact ⟨'\\' :: escaped :: body, rest, by simp [escape], .escaped escaped literal, later⟩
      · exact ⟨[], text, by simp [closes], .nil, finishes⟩
      · obtain ⟨body, rest, rfl, literal, later⟩ := finishes
        exact ⟨character :: body, rest, rfl, .plain closes escape literal, later⟩
  | escaped quote =>
      rw [Reading.next_of_ne_outside (by simp)] at step
      cases step
      obtain ⟨body, rest, rfl, literal, later⟩ := finishes
      exact ⟨character, body, rest, rfl, literal, later⟩

theorem finishes_of_after
    {reading : Reading}
    (read : reading.after pairing text = some .start) :
    Finishes pairing reading text := by
  induction text generalizing reading with
  | nil =>
      cases read
      exact .done .nil
  | cons character rest inductionHypothesis =>
      rw [Reading.after_cons] at read
      obtain ⟨following, step, read⟩ := Option.bind_eq_some_iff.mp read
      exact finishes_cons step (inductionHypothesis read)

/-- A text is nested exactly when a reader comes back to its start. -/
theorem nested_iff_after :
    Nested pairing text ↔ Reading.start.after pairing text = some .start := by
  constructor
  · exact Reading.after_nested
  · intro read
    cases finishes_of_after read with
    | done nested => exact nested

instance (pairing : Pairing) (text : List Char) : Decidable (Nested pairing text) :=
  decidable_of_iff (Reading.start.after pairing text = some .start) nested_iff_after.symm

example : ¬ Nested .byKind "min([1\x7d)".toList ∧ Nested .byNumber "min([1\x7d)".toList := by
  decide

/-! ## Nested parts -/

variable
  {first second : List Char}
  {character : Char}

theorem nested_of_plain
    (plain : ∀ character ∈ text, isPlain character) :
    Nested pairing text := by
  induction text with
  | nil => exact .nil
  | cons character rest inductionHypothesis =>
      rw [List.forall_mem_cons] at plain
      exact .plain plain.1 (inductionHypothesis plain.2)

theorem Nested.append
    (firstNested : Nested pairing first)
    (secondNested : Nested pairing second) :
    Nested pairing (first ++ second) := by
  rw [nested_iff_after, Reading.after_append, nested_iff_after.mp firstNested]
  exact nested_iff_after.mp secondNested

/-- Where the kinds of brackets match, their numbers do. -/
theorem Nested.byNumber
    (nested : Nested .byKind text) :
    Nested .byNumber text := by
  induction nested with
  | nil => exact .nil
  | plain plain _ inductionHypothesis => exact .plain plain inductionHypothesis
  | literal opens literal _ inductionHypothesis => exact .literal opens literal inductionHypothesis
  | bracket opens closes _ _ _ innerHypothesis restHypothesis =>
      exact .bracket opens closes rfl innerHypothesis restHypothesis

/-- A text in which the numbers of brackets match closes no bracket that was open before it: a
reader that gets to its end has the same brackets open as before. -/
theorem Reading.after_byNumber
    (nested : Nested .byNumber text)
    {following : Reading}
    (read : after pairing ⟨.outside, unclosed⟩ text = some following) :
    following = ⟨.outside, unclosed⟩ := by
  induction nested generalizing unclosed following with
  | nil =>
      cases read
      rfl
  | plain plain _ inductionHypothesis =>
      rw [after_cons, next_plain plain] at read
      exact inductionHypothesis read
  | @literal quote body rest opens literal _ inductionHypothesis =>
      have closed : body ++ quote :: rest = (body ++ [quote]) ++ rest := by simp
      rw [after_cons, next_quote opens, Option.bind_some, closed, after_append,
        after_literal opens literal] at read
      exact inductionHypothesis read
  | bracket opens closes _ _ _ innerHypothesis restHypothesis =>
      rw [after_cons, next_opening opens, Option.bind_some, after_append] at read
      obtain ⟨inside, innerRead, read⟩ := Option.bind_eq_some_iff.mp read
      rw [innerHypothesis innerRead, after_cons, next_closing closes] at read
      split_ifs at read with accepted
      · exact restHypothesis read
      · cases read

/-- Behind a text in which the numbers of brackets match, nesting starts anew. -/
theorem nested_append_iff
    (numbered : Nested .byNumber first) :
    Nested pairing (first ++ second) ↔ Nested pairing first ∧ Nested pairing second := by
  constructor
  · intro nested
    rw [nested_iff_after, Reading.after_append] at nested
    obtain ⟨following, firstRead, secondRead⟩ := Option.bind_eq_some_iff.mp nested
    have back : following = .start := Reading.after_byNumber numbered firstRead
    rw [back] at firstRead secondRead
    exact ⟨nested_iff_after.mpr firstRead, nested_iff_after.mpr secondRead⟩
  · rintro ⟨firstNested, secondNested⟩
    exact firstNested.append secondNested

theorem nested_cons_iff
    (plain : isPlain character) :
    Nested pairing (character :: text) ↔ Nested pairing text := by
  have alone : Nested pairing [character] := .plain plain .nil
  rw [← List.singleton_append, nested_append_iff (.plain plain .nil), and_iff_right alone]

/-- A plain character at the end can be left out. -/
theorem Nested.of_concat
    (plain : isPlain character)
    (nested : Nested pairing (text ++ [character])) :
    Nested pairing text := by
  obtain ⟨notQuote, -, notClosing⟩ := isPlain_iff.mp plain
  generalize whole : text ++ [character] = concatenated at nested
  induction nested generalizing text with
  | nil => simp at whole
  | plain firstPlain _ inductionHypothesis =>
      cases text with
      | nil => exact .nil
      | cons head tail =>
          obtain ⟨rfl, rfl⟩ := List.cons.inj whole
          exact .plain firstPlain (inductionHypothesis rfl)
  | literal opens literal _ inductionHypothesis =>
      rw [← List.cons_append] at whole
      obtain ⟨front, rest, rfl⟩ := List.exists_of_concat_eq whole (by rintro rfl; simp_all)
      exact .literal opens literal (inductionHypothesis rest.symm)
  | bracket opens closes accepted innerNested _ _ restHypothesis =>
      rw [← List.cons_append] at whole
      obtain ⟨front, rest, rfl⟩ := List.exists_of_concat_eq whole (by rintro rfl; simp_all)
      exact .bracket opens closes accepted innerNested (restHypothesis rest.symm)

/-! ## White space and words -/

/-- The brackets and the quotes. -/
def bracketsAndQuotes : List Char :=
  ['\'', '"', '\x60', '(', '[', '\x7b', ')', ']', '\x7d']

/-- A property that brackets and quotes do not have makes a character plain. -/
theorem isPlain_of_property
    (property : Char -> Bool)
    (excludes : bracketsAndQuotes.all fun special => !property special)
    (holds : property character) :
    isPlain character := by
  by_contra special
  simp only [isPlain, isQuote, isOpening, isClosing, Bool.and_eq_true, Bool.not_eq_true',
    Bool.or_eq_false_iff, decide_eq_false_iff_not, not_and_or, not_not] at special
  have member : character ∈ bracketsAndQuotes := by
    simp only [bracketsAndQuotes, List.mem_cons, List.not_mem_nil, or_false]
    tauto
  have excluded := List.all_eq_true.mp excludes character member
  simp [holds] at excluded

theorem isPlain_of_isWhiteSpace
    (blank : Text.isWhiteSpace character) :
    isPlain character :=
  isPlain_of_property Text.isWhiteSpace (by decide) blank

theorem isPlain_of_isNameCharacter
    (inName : Segment.isNameCharacter character) :
    isPlain character :=
  isPlain_of_property Segment.isNameCharacter (by decide +kernel) inName

theorem Nested.trimStart
    (nested : Nested pairing text) :
    Nested pairing (Text.trimStart text) := by
  induction text with
  | nil => exact .nil
  | cons character rest inductionHypothesis =>
      rw [Text.trimStart, List.dropWhile_cons]
      split_ifs with blank
      · exact inductionHypothesis ((nested_cons_iff (isPlain_of_isWhiteSpace blank)).mp nested)
      · exact nested

theorem Nested.trimEnd
    (nested : Nested pairing text) :
    Nested pairing (Text.trimEnd text) := by
  change Nested pairing (text.rdropWhile Text.isWhiteSpace)
  induction text using List.reverseRecOn with
  | nil => exact .nil
  | append_singleton front character inductionHypothesis =>
      rw [List.rdropWhile_concat]
      split_ifs with blank
      · exact inductionHypothesis (nested.of_concat (isPlain_of_isWhiteSpace blank))
      · exact nested

/-- White space at the ends of a text can be left out. -/
theorem Nested.trim
    (nested : Nested pairing text) :
    Nested pairing (Text.trim text) :=
  nested.trimStart.trimEnd

end Documentation
end EntitySchema
