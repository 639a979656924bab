import EntitySchema.Proofs.Segments
import Mathlib.Data.String.Basic

/-!
# Segments by byte offsets

A reader that works with byte offsets looks for the parentheses of a segment and takes the name, the
arguments and the text behind them as slices of the chain.  A slice can be taken only where both of
its ends stand between characters.  The offsets that the reader computes always do, and what it
reads are the segments of the chain.
-/

namespace EntitySchema
namespace Text

/-! ## Slices -/

/-- The part of a text between two byte offsets.  There is none unless the offsets are in order, lie
in the text and do not cut a character. -/
def slice? (text : String) (start stop : Nat) : Option String :=
  if start ≤ stop ∧ String.Pos.Raw.IsValid text ⟨start⟩ ∧ String.Pos.Raw.IsValid text ⟨stop⟩ then
    some (String.Pos.Raw.extract text ⟨start⟩ ⟨stop⟩)
  else
    none

/-- The offset behind a first part of a text does not cut a character. -/
theorem isValid_utf8Len (first second : List Char) :
    String.Pos.Raw.IsValid (String.ofList (first ++ second)) ⟨String.utf8Len first⟩ := by
  rw [String.Pos.Raw.isValid_iff_exists_append]
  refine ⟨String.ofList first, String.ofList second, String.ofList_append, ?_⟩
  rw [String.rawEndPos_ofList]

/-- The slice between the ends of two parts of a text is what stands between them. -/
theorem slice?_between (before part behind : List Char) :
    slice? (String.ofList (before ++ part ++ behind)) (String.utf8Len before)
        (String.utf8Len before + String.utf8Len part) =
      some (String.ofList part) := by
  have start : String.Pos.Raw.IsValid (String.ofList (before ++ part ++ behind))
      ⟨String.utf8Len before⟩ := by
    rw [List.append_assoc]
    exact isValid_utf8Len _ _
  have stop := isValid_utf8Len (before ++ part) behind
  rw [String.utf8Len_append] at stop
  rw [slice?, if_pos ⟨Nat.le_add_right _ _, start, stop⟩, String.extract_of_valid]

theorem slice?_start (first second : List Char) :
    slice? (String.ofList (first ++ second)) 0 (String.utf8Len first) =
      some (String.ofList first) := by
  simpa using slice?_between [] first second

theorem slice?_end (first second : List Char) :
    slice? (String.ofList (first ++ second)) (String.utf8Len first)
        (String.ofList (first ++ second)).utf8ByteSize =
      some (String.ofList second) := by
  rw [String.utf8ByteSize_ofList, String.utf8Len_append]
  simpa using slice?_between first second []

end Text

namespace Documentation

open Text (slice? slice?_between slice?_start slice?_end)

/-! ## Offsets of parentheses -/

/-- The byte offset of the first opening parenthesis. -/
def openingOffset? : List Char -> Option Nat
  | [] => none
  | character :: rest =>
      if character = '(' then some 0
      else (openingOffset? rest).map (character.utf8Size + ·)

/-- The byte offset of the parenthesis that closes the first bracket of a text.  The state, the
number of open brackets and the offset are those in front of the text.  There is no such place if
another kind of bracket closes the first one. -/
def closingOffset? (state : LiteralState) (depth offset : Nat) : List Char -> Option Nat
  | [] => none
  | character :: rest =>
      if state = .outside && isClosing character then
        match depth with
        | 0 => none
        | 1 => if character = ')' then some offset else none
        | outer + 2 => closingOffset? .outside (outer + 1) (offset + character.utf8Size) rest
      else if state = .outside && isOpening character then
        closingOffset? .outside (depth + 1) (offset + character.utf8Size) rest
      else
        closingOffset? (state.next character) depth (offset + character.utf8Size) rest

theorem ne_parenthesis_of_mem
    {text : List Char}
    (absent : '(' ∉ text) :
    ∀ character ∈ text, character != '(' := by
  intro character member
  rw [bne_iff_ne]
  rintro rfl
  exact absent member

theorem openingOffset?_eq_none
    {text : List Char}
    (absent : '(' ∉ text) :
    openingOffset? text = none := by
  induction text with
  | nil => rfl
  | cons character rest inductionHypothesis =>
      rw [List.mem_cons, not_or] at absent
      rw [openingOffset?, if_neg (Ne.symm absent.1), inductionHypothesis absent.2]
      rfl

theorem openingOffset?_append
    {name : List Char}
    (absent : '(' ∉ name)
    (behind : List Char) :
    openingOffset? (name ++ '(' :: behind) = some (String.utf8Len name) := by
  induction name with
  | nil => rfl
  | cons character rest inductionHypothesis =>
      rw [List.mem_cons, not_or] at absent
      rw [List.cons_append, openingOffset?, if_neg (Ne.symm absent.1), inductionHypothesis absent.2,
        Option.map_some, String.utf8Len_cons, Nat.add_comm]

/-- With one more bracket open, the closing parenthesis is where the arguments end. -/
theorem closingOffset?_eq
    (state : LiteralState)
    (depth offset : Nat)
    (text : List Char) :
    closingOffset? state (depth + 1) offset text =
      (argumentsFrom? state depth text).map fun split => offset + String.utf8Len split.1 := by
  induction text generalizing state depth offset with
  | nil => rfl
  | cons character rest inductionHypothesis =>
      have further (next : LiteralState) (inner : Nat) :
          closingOffset? next (inner + 1) (offset + character.utf8Size) rest =
            ((argumentsFrom? next inner rest).map (prepend character)).map
              fun split => offset + String.utf8Len split.1 := by
        rw [inductionHypothesis, Option.map_map]
        congr 1
        funext split
        rw [Function.comp_apply, prepend, String.utf8Len_cons]
        omega
      rw [closingOffset?.eq_def, argumentsFrom?.eq_def]
      dsimp only
      by_cases closes : state = .outside && isClosing character
      · rw [if_pos closes, if_pos closes]
        cases depth with
        | zero =>
            dsimp only
            split_ifs <;> rfl
        | succ outer => exact further .outside outer
      · rw [if_neg closes, if_neg closes]
        by_cases opens : state = .outside && isOpening character
        · rw [if_pos opens, if_pos opens, further]
        · rw [if_neg opens, if_neg opens, further]

/-! ## The reader -/

namespace Segment

/-- The segment that a text starts with, and the text behind it, read by byte offsets.  The result
is absent if the reader takes a slice that cannot be taken. -/
def splitByOffset? : List Char -> Option (Option (Segment × List Char))
  | '.' :: source => do
      let text := String.ofList source
      match openingOffset? source with
      | none => some none
      | some opening =>
          let name ← slice? text 0 opening
          if isName name.toList then
            let parenthesized ← slice? text opening text.utf8ByteSize
            match closingOffset? .outside 0 0 parenthesized.toList with
            | none => some none
            | some closing =>
                let arguments ← slice? text (opening + 1) (opening + closing)
                let behind ← slice? text (opening + closing + 1) text.utf8ByteSize
                some (some (⟨name.toList, arguments.toList⟩, behind.toList))
          else
            some none
  | _ => some none

/-- A closing parenthesis that is found is the one behind the arguments. -/
theorem closingOffset?_parenthesis (behind : List Char) :
    closingOffset? .outside 0 0 ('(' :: behind) =
      (arguments? behind).map fun split => 1 + String.utf8Len split.1 :=
  closingOffset?_eq .outside 0 1 behind

/-- The slice between the parentheses of a segment. -/
theorem slice?_arguments (name arguments rest : List Char) :
    slice? (String.ofList (name ++ '(' :: (arguments ++ ')' :: rest))) (String.utf8Len name + 1)
        (String.utf8Len name + (1 + String.utf8Len arguments)) =
      some (String.ofList arguments) := by
  have cut := slice?_between (name ++ ['(']) arguments (')' :: rest)
  have opening : String.utf8Len (name ++ ['(']) = String.utf8Len name + 1 :=
    String.utf8Len_append _ _
  rw [opening, Nat.add_assoc] at cut
  simpa only [List.append_assoc, List.cons_append, List.nil_append] using cut

/-- The slice behind the closing parenthesis of a segment. -/
theorem slice?_behind (name arguments rest : List Char) :
    let text := String.ofList (name ++ '(' :: (arguments ++ ')' :: rest))
    slice? text (String.utf8Len name + (1 + String.utf8Len arguments) + 1) text.utf8ByteSize =
      some (String.ofList rest) := by
  have cut := slice?_end (name ++ '(' :: (arguments ++ [')'])) rest
  have closing : String.utf8Len (name ++ '(' :: (arguments ++ [')'])) =
      String.utf8Len name + (1 + String.utf8Len arguments) + 1 := by
    have parentheses : ')'.utf8Size = 1 ∧ '('.utf8Size = 1 := by decide
    simp only [String.utf8Len_append, String.utf8Len_cons, String.utf8Len_nil, parentheses]
    omega
  rw [closing] at cut
  simpa only [List.append_assoc, List.cons_append, List.nil_append] using cut

/-- Behind a dot, the offsets lead to the name, to the arguments and behind them. -/
theorem splitByOffset?_of_parenthesis
    {name : List Char}
    (absent : '(' ∉ name)
    (behind : List Char) :
    splitByOffset? ('.' :: (name ++ '(' :: behind)) =
      some (if isName name then
        (arguments? behind).map fun split => (⟨name, split.1⟩, split.2)
      else none) := by
  simp only [splitByOffset?, openingOffset?_append absent, slice?_start, slice?_end,
    Option.bind_eq_bind, Option.bind_some, String.toList_ofList]
  split_ifs with valid
  · rw [closingOffset?_parenthesis]
    cases found : arguments? behind with
    | none => rfl
    | some split =>
        obtain ⟨arguments, rest⟩ := split
        obtain ⟨rfl, -⟩ := arguments?_eq_some_iff.mp found
        simp only [Option.map_some, slice?_arguments, slice?_behind, Option.bind_some,
          String.toList_ofList]
  · rfl

/-- The reader by offsets takes only slices that can be taken, and reads the segment that a text
starts with. -/
theorem splitByOffset?_eq (text : List Char) : splitByOffset? text = some (split? text) := by
  unfold split?
  split
  · next source =>
    by_cases opens : '(' ∈ source
    · obtain ⟨name, behind, rfl, absent⟩ := List.eq_append_cons_of_mem opens
      have inName := ne_parenthesis_of_mem absent
      simp only [splitByOffset?_of_parenthesis absent, List.takeWhile_append_of_pos inName,
        List.dropWhile_append_of_pos inName]
      simp
    · simp only [splitByOffset?, openingOffset?_eq_none opens,
        List.dropWhile_eq_nil_iff.mpr (ne_parenthesis_of_mem opens)]
  · next other =>
    unfold splitByOffset?
    split
    · next source => exact absurd rfl (other source)
    · rfl

end Segment

/-- The segments of a chain, read by byte offsets. -/
def segmentsByOffset? (chain : List Char) : Option (List Segment) :=
  match _ : Segment.splitByOffset? chain with
  | none => none
  | some none => some []
  | some (some (segment, rest)) =>
      (segmentsByOffset? (Text.trimStart rest)).map (segment :: ·)
termination_by chain.length
decreasing_by
  have found : Segment.split? chain = some (segment, rest) := by
    rename_i read
    rw [Segment.splitByOffset?_eq] at read
    exact Option.some.inj read
  have shorter := Segment.split?_length found
  have trimmed : (Text.trimStart rest).length <= rest.length :=
    (List.dropWhile_sublist _).length_le
  omega

/-- Reading by byte offsets finds the segments of every chain. -/
theorem segmentsByOffset?_eq (chain : List Char) :
    segmentsByOffset? chain = some (segments chain) := by
  fun_induction segmentsByOffset? chain with
  | case1 chain failed =>
      rw [Segment.splitByOffset?_eq] at failed
      cases failed
  | case2 chain missing =>
      rw [Segment.splitByOffset?_eq] at missing
      rw [segments_of_split?_eq_none (Option.some.inj missing)]
  | case3 chain segment rest found inductionHypothesis =>
      rw [Segment.splitByOffset?_eq] at found
      rw [inductionHypothesis, segments_of_split? (Option.some.inj found)]
      rfl

end Documentation
end EntitySchema
