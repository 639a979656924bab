/-!
# Sets of code points

Properties of characters are given as ascending lists of closed intervals of code points.
-/

namespace EntitySchema
namespace Text

/-- A set of code points, as an ascending list of closed intervals. -/
abbrev CodePointRanges := List (Nat × Nat)

namespace CodePointRanges

/-- Whether a character lies in one of the intervals. -/
def contains (ranges : CodePointRanges) (character : Char) : Bool :=
  ranges.any fun range =>
    range.1 <= character.toNat && character.toNat <= range.2

end CodePointRanges
end Text
end EntitySchema
