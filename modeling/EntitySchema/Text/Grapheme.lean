import EntitySchema.Text.Grapheme.BreakClass

/-!
# Grapheme clusters

A grapheme cluster is what a reader takes for one character: a base with its marks, a Hangul
syllable written in parts, a flag, a joined picture.  The consonant conjuncts of the scripts of
India are left in pieces; their letters have no case, so no word boundary depends on them.
-/

namespace EntitySchema
namespace Text

/-- What the cluster rules have to know about the text before a character. -/
structure BreakState where
  /-- The class of the character just before. -/
  previous : BreakClass
  /-- Whether a pictograph and its marks came just before, with a joiner last or not. -/
  afterPictograph : Bool
  /-- Whether the regional indicators just before are odd in number. -/
  oddIndicators : Bool

namespace BreakState

/-- The state after a first character. -/
def start (first : BreakClass) : BreakState where
  previous := first
  afterPictograph := first = .pictographic
  oddIndicators := first = .regionalIndicator

/-- The state after one more character. -/
def next (state : BreakState) (current : BreakClass) : BreakState where
  previous := current
  afterPictograph :=
    current = .pictographic ||
      (state.afterPictograph && state.previous != .zeroWidthJoiner &&
        (current = .extend || current = .zeroWidthJoiner))
  oddIndicators := current = .regionalIndicator && !state.oddIndicators

/-- Whether a line end or another control character stands on one side of the place. -/
def separates (state : BreakState) (current : BreakClass) : Bool :=
  let alone : BreakClass -> Bool := fun breakClass =>
    breakClass = .control || breakClass = .carriageReturn || breakClass = .lineFeed
  alone state.previous || alone current

/-- Whether the two characters are parts of one Hangul syllable. -/
def joinsSyllable (state : BreakState) (current : BreakClass) : Bool :=
  match state.previous, current with
  | .hangulLeading, .hangulLeading => true
  | .hangulLeading, .hangulVowel => true
  | .hangulLeading, .hangulOpenSyllable => true
  | .hangulLeading, .hangulClosedSyllable => true
  | .hangulOpenSyllable, .hangulVowel => true
  | .hangulOpenSyllable, .hangulTrailing => true
  | .hangulVowel, .hangulVowel => true
  | .hangulVowel, .hangulTrailing => true
  | .hangulClosedSyllable, .hangulTrailing => true
  | .hangulTrailing, .hangulTrailing => true
  | _, _ => false

/-- Whether a character belongs to the same cluster as the text before it. -/
def joins (state : BreakState) (current : BreakClass) : Bool :=
  if state.previous = .carriageReturn && current = .lineFeed then true
  else if state.separates current then false
  else
    state.joinsSyllable current ||
      current = .extend || current = .zeroWidthJoiner || current = .spacingMark ||
      state.previous = .prepended ||
      (state.afterPictograph && state.previous = .zeroWidthJoiner &&
        current = .pictographic) ||
      (state.oddIndicators && current = .regionalIndicator)

end BreakState

/-- The clusters of a text that continues a cluster whose reversed characters are known. -/
def clustersFrom (state : BreakState) (reversed : List Char) :
    List Char -> List (List Char)
  | [] => [reversed.reverse]
  | character :: rest =>
      let current := BreakClass.ofChar character
      if state.joins current then
        clustersFrom (state.next current) (character :: reversed) rest
      else
        reversed.reverse :: clustersFrom (.start current) [character] rest

/-- The grapheme clusters of a text. -/
def clusters : List Char -> List (List Char)
  | [] => []
  | character :: rest =>
      clustersFrom (.start (.ofChar character)) [character] rest

end Text
end EntitySchema
