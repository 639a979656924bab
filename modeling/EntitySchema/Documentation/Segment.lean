import EntitySchema.Text.Alphanumeric
import EntitySchema.Text.WhiteSpace

/-!
# Segments of a directive line

A directive line is a chain of segments `.name(arguments)` with white space between them.  The
arguments run to the parenthesis that closes the segment; brackets of all three kinds are counted
alike, and those inside string literals are not counted.  The chain ends before the first text
that is no segment.
-/

namespace EntitySchema
namespace Documentation

/-- Where a character stands with respect to string literals. -/
inductive LiteralState
  /-- Outside every literal. -/
  | outside
  /-- Inside a literal that the given quote closes. -/
  | inside (quote : Char)
  /-- Right after a backslash inside a literal. -/
  | escaped (quote : Char)
  deriving DecidableEq, Repr

/-- Whether a character opens a string literal. -/
def isQuote (character : Char) : Bool :=
  character = '\'' || character = '"' || character = '\x60'

/-- Whether a character is an opening bracket. -/
def isOpening (character : Char) : Bool :=
  character = '(' || character = '[' || character = '\x7b'

/-- Whether a character is a closing bracket. -/
def isClosing (character : Char) : Bool :=
  character = ')' || character = ']' || character = '\x7d'

/-- The state after a character. -/
def LiteralState.next (character : Char) : LiteralState -> LiteralState
  | outside => if isQuote character then inside character else outside
  | inside quote =>
      if character = '\\' then escaped quote
      else if character = quote then outside
      else inside quote
  | escaped quote => inside quote

/-- Put a character in front of the first part of a split text. -/
def prepend (character : Char) (split : List Char × List Char) : List Char × List Char :=
  (character :: split.1, split.2)

/-- Split a text at the parenthesis that closes a segment, given the number of brackets that are
open inside the segment.  There is no such place if another kind of bracket closes the segment or
if nothing does. -/
def argumentsFrom? (state : LiteralState) (depth : Nat) :
    List Char -> Option (List Char × List Char)
  | [] => none
  | character :: rest =>
      if state = .outside && isClosing character then
        match depth with
        | 0 => if character = ')' then some ([], rest) else none
        | outer + 1 => (argumentsFrom? .outside outer rest).map (prepend character)
      else if state = .outside && isOpening character then
        (argumentsFrom? .outside (depth + 1) rest).map (prepend character)
      else
        (argumentsFrom? (state.next character) depth rest).map (prepend character)

/-- Split a text at the parenthesis that closes a segment whose parenthesis is open. -/
def arguments? (text : List Char) : Option (List Char × List Char) :=
  argumentsFrom? .outside 0 text

/-- A segment `.name(arguments)` of a directive line. -/
structure Segment where
  /-- The name before the parenthesis. -/
  name : List Char
  /-- The text between the parentheses. -/
  arguments : List Char
  deriving DecidableEq, Repr

namespace Segment

/-- Whether a character may stand in the name of a segment. -/
def isNameCharacter (character : Char) : Bool :=
  Text.isAlphanumeric character || character = '_' || character = '$'

/-- Whether a text is the name of a segment. -/
def isName (name : List Char) : Bool :=
  !name.isEmpty && name.all isNameCharacter

/-- The name and the arguments of a segment, as they are written. -/
def call (segment : Segment) : List Char :=
  segment.name ++ '(' :: segment.arguments ++ [')']

/-- The segment that a text starts with, and the text behind it. -/
def split? : List Char -> Option (Segment × List Char)
  | '.' :: rest =>
      let name := rest.takeWhile (· != '(')
      match rest.dropWhile (· != '(') with
      | [] => none
      | _ :: afterOpening =>
          if isName name then
            (arguments? afterOpening).map fun split => (⟨name, split.1⟩, split.2)
          else
            none
  | _ => none

end Segment

/-- The text behind the closing parenthesis is shorter than the text after the opening one. -/
theorem argumentsFrom?_length {state : LiteralState} {depth : Nat} {text : List Char}
    {split : List Char × List Char} (found : argumentsFrom? state depth text = some split) :
    split.2.length < text.length := by
  induction text generalizing state depth split with
  | nil => simp [argumentsFrom?] at found
  | cons character rest inductionHypothesis =>
      have step : forall {next : LiteralState} {inner : Nat},
          (argumentsFrom? next inner rest).map (prepend character) = some split ->
            split.2.length < (character :: rest).length := by
        intro next inner stepFound
        obtain ⟨part, partFound, rfl⟩ := Option.map_eq_some_iff.mp stepFound
        have shorter := inductionHypothesis partFound
        simp only [prepend, List.length_cons]
        omega
      unfold argumentsFrom? at found
      split at found
      · split at found
        · split at found
          · cases found
            simp
          · simp at found
        · exact step found
      · split at found
        · exact step found
        · exact step found

/-- The text behind a segment is shorter than the text that starts with the segment. -/
theorem Segment.split?_length {text rest : List Char} {segment : Segment}
    (found : Segment.split? text = some (segment, rest)) : rest.length < text.length := by
  unfold Segment.split? at found
  split at found
  · rename_i source
    have shorter : (source.dropWhile (· != '(')).length <= source.length :=
      (List.dropWhile_sublist _).length_le
    simp only at found
    split at found
    · simp at found
    · rename_i afterOpening opened
      split at found
      · obtain ⟨split, splitFound, equality⟩ := Option.map_eq_some_iff.mp found
        have behind := argumentsFrom?_length splitFound
        rw [opened] at shorter
        simp only [Prod.mk.injEq] at equality
        simp only [List.length_cons] at shorter ⊢
        rw [← equality.2]
        omega
      · simp at found
  · simp at found

/-- The segments of a chain that has no white space before its first segment. -/
def segments (chain : List Char) : List Segment :=
  match _ : Segment.split? chain with
  | none => []
  | some (segment, rest) => segment :: segments (Text.trimStart rest)
termination_by chain.length
decreasing_by
  have shorter : rest.length < chain.length := by
    apply Segment.split?_length
    assumption
  have trimmed : (Text.trimStart rest).length <= rest.length :=
    (List.dropWhile_sublist _).length_le
  omega

end Documentation
end EntitySchema
