import EntitySchema.Documentation
import EntitySchema.Proofs.SegmentOffsets

/-!
# Decomposition of chains

A chain is cut into segments, each with the white space behind it, and a rest that does not start
with a segment.  The parenthesis that closes a segment is the first place at which as many brackets
have been closed as opened since the opening one.  Every text has one such decomposition, and the
directives of a chain are those of its segments.
-/

namespace EntitySchema
namespace Documentation

/-! ## Closing parentheses -/

/-- The characters of a text that stand outside of string literals, given where the text starts. -/
def outsideLiterals (state : LiteralState) : List Char -> List Char
  | [] => []
  | character :: rest =>
      if state = .outside then character :: outsideLiterals (state.next character) rest
      else outsideLiterals (state.next character) rest

/-- How many more brackets a text opens than it closes, those in string literals not counted. -/
def openBrackets (state : LiteralState) (text : List Char) : Int :=
  (outsideLiterals state text).countP isOpening - (outsideLiterals state text).countP isClosing

/-- From an opening parenthesis on, the parenthesis behind the arguments is the first place where
no bracket is open. -/
def ClosesFirst (arguments : List Char) : Prop :=
  openBrackets .outside ('(' :: arguments ++ [')']) = 0 ∧
    ∀ start, start <+: arguments → openBrackets .outside ('(' :: start) ≠ 0

/-- What a character adds to the number of open brackets. -/
def bracketWeight (state : LiteralState) (character : Char) : Int :=
  if state = .outside && isClosing character then -1
  else if state = .outside && isOpening character then 1
  else 0

theorem isClosing_cases
    {closing : Char}
    (closes : isClosing closing) :
    isQuote closing = false ∧ isOpening closing = false := by
  simp only [isClosing, Bool.or_eq_true, decide_eq_true_eq] at closes
  rcases closes with (rfl | rfl) | rfl <;> decide

@[simp] theorem openBrackets_nil (state : LiteralState) : openBrackets state [] = 0 := rfl

theorem openBrackets_cons
    (state : LiteralState)
    (character : Char)
    (rest : List Char) :
    openBrackets state (character :: rest) =
      bracketWeight state character + openBrackets (state.next character) rest := by
  by_cases outside : state = .outside
  · rw [openBrackets, outsideLiterals, if_pos outside, openBrackets, bracketWeight,
      List.countP_cons, List.countP_cons]
    cases closes : isClosing character with
    | true =>
        simp only [outside, (isClosing_cases closes).2]
        simp
        omega
    | false =>
        cases isOpening character <;> simp [outside]
        omega
  · rw [openBrackets, outsideLiterals, if_neg outside, openBrackets, bracketWeight]
    simp [outside]

/-- The reader stops at a bracket that closes one bracket too many.  Otherwise it goes on, with as
many open brackets as the character leaves. -/
theorem next_byNumber
    (state : LiteralState)
    (unclosed : List Char)
    (character : Char) :
    (unclosed.length + 1 + bracketWeight state character = 0 ∧
        Reading.next .byNumber ⟨state, unclosed⟩ character = none) ∨
      ∃ following : List Char,
        Reading.next .byNumber ⟨state, unclosed⟩ character =
            some ⟨state.next character, following⟩ ∧
          (following.length : Int) = unclosed.length + bracketWeight state character := by
  rw [Reading.next, bracketWeight]
  by_cases closes : state = .outside && isClosing character
  · simp only [if_pos closes]
    obtain ⟨outside, closing⟩ := Bool.and_eq_true_iff.mp closes
    rw [decide_eq_true_iff] at outside
    have stays : state.next character = .outside := by
      rw [outside, LiteralState.next, (isClosing_cases closing).1]
      rfl
    cases unclosed with
    | nil => exact .inl ⟨rfl, rfl⟩
    | cons opening outer =>
        refine .inr ⟨outer, ?_, ?_⟩
        · rw [stays, outside]
          rfl
        · rw [List.length_cons]
          omega
  · simp only [if_neg closes]
    by_cases opens : state = .outside && isOpening character
    · simp only [if_pos opens]
      obtain ⟨outside, opening⟩ := Bool.and_eq_true_iff.mp opens
      rw [decide_eq_true_iff] at outside
      have stays : state.next character = .outside := by
        rw [outside, LiteralState.next, (isOpening_cases opening).1]
        rfl
      refine .inr ⟨character :: unclosed, ?_, by simp⟩
      rw [stays, outside]
    · simp only [if_neg opens]
      exact .inr ⟨unclosed, rfl, by simp⟩

/-- A reader with some open brackets comes back to its start exactly when one more bracket in front
would be closed first by a parenthesis behind the text. -/
theorem after_eq_start_iff
    {state : LiteralState}
    {unclosed text : List Char} :
    Reading.after .byNumber ⟨state, unclosed⟩ text = some .start ↔
      unclosed.length + 1 + openBrackets state (text ++ [')']) = 0 ∧
        ∀ start, start <+: text → unclosed.length + 1 + openBrackets state start ≠ 0 := by
  induction text generalizing state unclosed with
  | nil =>
      have onlyStart : ∀ start : List Char, start <+: [] →
          (unclosed.length : Int) + 1 + openBrackets state start ≠ 0 := by
        intro start isStart
        rw [List.prefix_nil.mp isStart, openBrackets_nil]
        omega
      rw [and_iff_left onlyStart, List.nil_append, openBrackets_cons, openBrackets_nil,
        Reading.after_nil, Option.some_inj, Reading.start, Reading.mk.injEq,
        ← List.length_eq_zero_iff]
      by_cases outside : state = .outside
      · have closes : bracketWeight state ')' = -1 := by
          rw [outside]
          rfl
        rw [closes, and_iff_right outside]
        omega
      · have ignored : bracketWeight state ')' = 0 := by simp [bracketWeight, outside]
        rw [ignored]
        exact ⟨fun start => absurd start.1 outside, fun impossible => by omega⟩
  | cons character rest inductionHypothesis =>
      rw [Reading.after_cons, List.cons_append, openBrackets_cons]
      rcases next_byNumber state unclosed character with ⟨closed, stops⟩ | ⟨following, goes, count⟩
      · -- The place behind this character is an earlier one where no bracket is open.
        have early : (unclosed.length : Int) + 1 + openBrackets state [character] = 0 := by
          rw [openBrackets_cons, openBrackets_nil, Int.add_zero, closed]
        rw [stops, Option.bind_none]
        constructor
        · intro impossible
          cases impossible
        · intro first
          exact absurd early
            (first.2 [character] (List.cons_prefix_cons.mpr ⟨rfl, List.nil_prefix⟩))
      · have shifted (brackets : Int) :
            unclosed.length + 1 + (bracketWeight state character + brackets) =
              following.length + 1 + brackets := by
          omega
        rw [goes, Option.bind_some, inductionHypothesis, shifted]
        refine and_congr_right fun _ => ⟨?_, ?_⟩
        · intro first start isStart
          rcases List.prefix_cons_iff.mp isStart with rfl | ⟨tail, rfl, isTail⟩
          · rw [openBrackets_nil]
            omega
          · rw [openBrackets_cons, shifted]
            exact first tail isTail
        · intro first start isStart
          have further := first (character :: start) (List.cons_prefix_cons.mpr ⟨rfl, isStart⟩)
          rwa [openBrackets_cons, shifted] at further

/-- Arguments run to the first place where all brackets are closed exactly when they are nested by
number. -/
theorem closesFirst_iff_nested
    {arguments : List Char} :
    ClosesFirst arguments ↔ Nested .byNumber arguments := by
  have opening (text : List Char) :
      openBrackets .outside ('(' :: text) =
        ([] : List Char).length + 1 + openBrackets .outside text :=
    openBrackets_cons .outside '(' text
  rw [nested_iff_after, ClosesFirst, List.cons_append]
  simp only [opening]
  exact after_eq_start_iff.symm

/-! ## Decompositions -/

/-- A segment with the white space behind it. -/
@[ext] structure Piece where
  segment : Segment
  gap : List Char
  deriving DecidableEq, Repr

/-- The text of a piece. -/
def Piece.text (piece : Piece) : List Char :=
  '.' :: piece.segment.name ++ '(' :: piece.segment.arguments ++ ')' :: piece.gap

/-- A text starts with a segment. -/
def StartsWithSegment (text : List Char) : Prop :=
  ∃ segment : Segment, ∃ behind,
    text = '.' :: segment.name ++ '(' :: segment.arguments ++ ')' :: behind ∧
      Segment.isName segment.name ∧ ClosesFirst segment.arguments

/-- A text is cut into pieces and a rest. -/
structure IsDecomposition (text : List Char) (pieces : List Piece) (rest : List Char) : Prop where
  whole : text = pieces.flatMap Piece.text ++ rest
  names : ∀ piece ∈ pieces, Segment.isName piece.segment.name
  closes : ∀ piece ∈ pieces, ClosesFirst piece.segment.arguments
  /-- Behind a segment, the gap is all the white space there is. -/
  gaps : ∀ before piece behind, pieces = before ++ piece :: behind →
    (piece.gap ++ (behind.flatMap Piece.text ++ rest)).takeWhile Text.isWhiteSpace = piece.gap
  stops : ¬ StartsWithSegment rest

variable
  {text rest : List Char}
  {piece : Piece}
  {pieces : List Piece}

/-- A text starts with a segment exactly when one is read. -/
theorem split?_eq_some_iff_closes
    {segment : Segment}
    {behind : List Char} :
    Segment.split? text = some (segment, behind) ↔
      text = '.' :: segment.name ++ '(' :: segment.arguments ++ ')' :: behind ∧
        Segment.isName segment.name ∧ ClosesFirst segment.arguments := by
  have written : '.' :: (segment.call ++ behind) =
      '.' :: segment.name ++ '(' :: segment.arguments ++ ')' :: behind := by
    simp [Segment.call]
  rw [Segment.split?_eq_some_iff, written, closesFirst_iff_nested]
  refine and_congr_right fun _ => ⟨fun readable => ⟨readable.name, readable.arguments⟩, ?_⟩
  exact fun readable => ⟨readable.1, readable.2⟩

theorem not_startsWithSegment_iff :
    ¬ StartsWithSegment text ↔ Segment.split? text = none := by
  rw [StartsWithSegment, Option.eq_none_iff_forall_ne_some]
  simp only [← split?_eq_some_iff_closes, not_exists, Prod.forall, Ne]

namespace IsDecomposition

/-- A piece in front of a decomposition. -/
theorem cons
    (decomposition : IsDecomposition text pieces rest)
    (name : Segment.isName piece.segment.name)
    (closes : ClosesFirst piece.segment.arguments)
    (gap : (piece.gap ++ text).takeWhile Text.isWhiteSpace = piece.gap) :
    IsDecomposition (piece.text ++ text) (piece :: pieces) rest where
  whole := by rw [List.flatMap_cons, List.append_assoc, ← decomposition.whole]
  names := List.forall_mem_cons.mpr ⟨name, decomposition.names⟩
  closes := List.forall_mem_cons.mpr ⟨closes, decomposition.closes⟩
  gaps := by
    intro before other behind shape
    cases before with
    | nil =>
        obtain ⟨rfl, rfl⟩ := List.cons.inj shape
        rwa [← decomposition.whole]
    | cons first earlier => exact decomposition.gaps earlier other behind (List.cons.inj shape).2
  stops := decomposition.stops

/-- The first piece of a decomposition is what is read first, and the others decompose the text
behind it. -/
theorem uncons
    (decomposition : IsDecomposition text (piece :: pieces) rest) :
    ∃ more,
      Segment.split? text = some (piece.segment, piece.gap ++ more) ∧
        (piece.gap ++ more).takeWhile Text.isWhiteSpace = piece.gap ∧
          IsDecomposition more pieces rest := by
  obtain ⟨name, names⟩ := List.forall_mem_cons.mp decomposition.names
  obtain ⟨closes, allClose⟩ := List.forall_mem_cons.mp decomposition.closes
  refine ⟨pieces.flatMap Piece.text ++ rest, ?_, decomposition.gaps [] piece pieces rfl, ?_⟩
  · rw [split?_eq_some_iff_closes]
    refine ⟨?_, name, closes⟩
    rw [decomposition.whole, List.flatMap_cons, Piece.text]
    simp
  · refine ⟨rfl, names, allClose, ?_, decomposition.stops⟩
    intro before other behind shape
    exact decomposition.gaps (piece :: before) other behind (by rw [shape]; rfl)

theorem split?_eq_none
    (decomposition : IsDecomposition text [] rest) :
    Segment.split? text = none := by
  rw [← not_startsWithSegment_iff, decomposition.whole]
  exact decomposition.stops

/-- A text has no more than one decomposition. -/
theorem unique
    {others : List Piece}
    {remaining : List Char}
    (first : IsDecomposition text pieces rest)
    (second : IsDecomposition text others remaining) :
    others = pieces ∧ remaining = rest := by
  induction pieces generalizing text others with
  | nil =>
      cases others with
      | nil => exact ⟨rfl, second.whole.symm.trans first.whole⟩
      | cons other others =>
          obtain ⟨more, found, -⟩ := second.uncons
          rw [first.split?_eq_none] at found
          cases found
  | cons piece pieces inductionHypothesis =>
      obtain ⟨more, found, gap, decomposition⟩ := first.uncons
      cases others with
      | nil =>
          rw [second.split?_eq_none] at found
          cases found
      | cons other others =>
          obtain ⟨otherMore, otherFound, otherGap, otherDecomposition⟩ := second.uncons
          rw [found] at otherFound
          obtain ⟨segment, behind⟩ := Prod.mk.inj (Option.some.inj otherFound)
          -- The gaps are the white space in front of one and the same text.
          have sameGap : piece.gap = other.gap := by rw [← gap, behind, otherGap]
          rw [sameGap, List.append_cancel_left_eq] at behind
          rw [← behind] at otherDecomposition
          obtain ⟨rfl, rfl⟩ := inductionHypothesis decomposition otherDecomposition
          have samePiece : other = piece := Piece.ext segment.symm sameGap.symm
          rw [samePiece]
          exact ⟨rfl, rfl⟩

end IsDecomposition

/-- Every text has a decomposition, into the segments that are read. -/
theorem exists_isDecomposition (text : List Char) :
    ∃ pieces rest,
      IsDecomposition text pieces rest ∧ pieces.map Piece.segment = segments text := by
  fun_induction segments text with
  | case1 text missing =>
      refine ⟨[], text, ⟨rfl, ?_, ?_, ?_, not_startsWithSegment_iff.mpr missing⟩, rfl⟩
      · simp
      · simp
      · simp
  | case2 text segment behind found inductionHypothesis =>
      obtain ⟨pieces, rest, decomposition, read⟩ := inductionHypothesis
      obtain ⟨rfl, name, closes⟩ := split?_eq_some_iff_closes.mp found
      have parts : behind.takeWhile Text.isWhiteSpace ++ Text.trimStart behind = behind :=
        List.takeWhile_append_dropWhile
      have whole :
          '.' :: segment.name ++ '(' :: segment.arguments ++ ')' :: behind =
            Piece.text ⟨segment, behind.takeWhile Text.isWhiteSpace⟩ ++
              Text.trimStart behind := by
        simp [Piece.text, parts]
      refine ⟨⟨segment, behind.takeWhile Text.isWhiteSpace⟩ :: pieces, rest, ?_, ?_⟩
      · rw [whole]
        exact decomposition.cons name closes (by rw [parts])
      · rw [List.map_cons, read]

/-- Every chain has one decomposition, its directives are those of the segments, and a reader that
takes slices by byte offsets finds these segments without a slice that cannot be taken.  A segment
called `custom` gives its trimmed arguments as a replacement, and any other is appended as it is
written. -/
theorem chain_decomposition (chain : List Char) :
    ∃ pieces rest,
      IsDecomposition (Text.trim chain) pieces rest ∧
      (∀ others remaining, IsDecomposition (Text.trim chain) others remaining →
        others = pieces ∧ remaining = rest) ∧
      directivesOfChain chain =
        pieces.map (fun piece =>
          if piece.segment.name = "custom".toList then
            .replaceBase (String.ofList (Text.trim piece.segment.arguments))
          else
            .append (String.ofList
              (piece.segment.name ++ '(' :: piece.segment.arguments ++ [')']))) ∧
      segmentsByOffset? (Text.trim chain) = some (pieces.map Piece.segment) := by
  obtain ⟨pieces, rest, decomposition, read⟩ := exists_isDecomposition (Text.trim chain)
  refine ⟨pieces, rest, decomposition, fun _ _ => decomposition.unique, ?_, ?_⟩
  · rw [directivesOfChain, ← read, List.map_map]
    rfl
  · rw [segmentsByOffset?_eq, read]

end Documentation
end EntitySchema
