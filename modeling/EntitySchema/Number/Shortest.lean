import EntitySchema.Number.Binary64

/-!
# Decimal text of binary numbers

A binary number is written with the fewest digits that still tell it apart from its neighbours,
and among those with the nearest ones.  The notation is positional whatever the size, and always
shows a decimal point.
-/

namespace EntitySchema
namespace Binary64

/-- The numbers that round to a binary number, as a span of fractions over one denominator. -/
structure RoundingSpan where
  /-- The numerator of the lower end. -/
  low : Nat
  /-- The numerator of the binary number itself. -/
  middle : Nat
  /-- The numerator of the upper end. -/
  high : Nat
  /-- The common denominator. -/
  denominator : Nat
  /-- Whether the ends themselves round to the number. -/
  endsIncluded : Bool

/-- The span of a positive binary number.  Below a power of two the neighbours lie half as far
away. -/
def roundingSpan (value : Binary64) : RoundingSpan :=
  let belowPower := value.significand = Nat.pow 2 52 && leastExponent < value.exponent
  let quarters := 4 * value.significand
  let power := value.exponent - 2
  let scale := if 0 <= power then Nat.pow 2 power.toNat else 1
  { low := (if belowPower then quarters - 1 else quarters - 2) * scale
    middle := quarters * scale
    high := (quarters + 2) * scale
    denominator := if 0 <= power then 1 else Nat.pow 2 (-power).toNat
    endsIncluded := value.significand % 2 = 0 }

namespace RoundingSpan

/-- Whether a fraction lies in the span. -/
def contains (span : RoundingSpan) (numerator denominator : Nat) : Bool :=
  let scaled := numerator * span.denominator
  if span.endsIncluded then
    span.low * denominator <= scaled && scaled <= span.high * denominator
  else
    span.low * denominator < scaled && scaled < span.high * denominator

/-- The span's middle as a fraction of the given power of ten. -/
def middleOver (span : RoundingSpan) (power : Int) : Nat × Nat :=
  if 0 <= power then (span.middle, span.denominator * Nat.pow 10 power.toNat)
  else (span.middle * Nat.pow 10 (-power).toNat, span.denominator)

/-- Whether a multiple of a power of ten lies in the span. -/
def containsMultiple (span : RoundingSpan) (count : Nat) (power : Int) : Bool :=
  if 0 <= power then span.contains (count * Nat.pow 10 power.toNat) 1
  else span.contains count (Nat.pow 10 (-power).toNat)

/-- The multiple of a power of ten in the span that is nearest to the middle, if there is one. -/
def nearestMultiple? (span : RoundingSpan) (power : Int) : Option Nat :=
  let (numerator, denominator) := span.middleOver power
  let below := numerator / denominator
  let doubledRest := 2 * (numerator % denominator)
  let candidates :=
    if doubledRest < denominator then [below, below + 1] else [below + 1, below]
  candidates.find? fun count => 0 < count && span.containsMultiple count power

end RoundingSpan

/-- The power of ten that the first digit of a positive fraction stands for, searched downward
from a power above it. -/
def leadingPower (span : RoundingSpan) : Nat -> Int -> Int
  | 0, power => power
  | steps + 1, power =>
      let (numerator, denominator) := span.middleOver power
      if denominator <= numerator then power else leadingPower span steps (power - 1)

/-- The shortest digits for a span whose first digit stands for the given power of ten: their
value and the power of ten of the last one, trying ever more digits. -/
def shortestFrom (span : RoundingSpan) (leading : Int) : Nat -> Nat -> Nat × Int
  | 0, digits => ((span.nearestMultiple? (leading - digits)).getD 0, leading - digits)
  | attempts + 1, digits =>
      match span.nearestMultiple? (leading - digits) with
      | some count => (count, leading - digits)
      | none => shortestFrom span leading attempts (digits + 1)

/-- The shortest digits of a positive binary number and the power of ten of the last one. -/
def shortestDigits (value : Binary64) : Nat × Int :=
  let span := value.roundingSpan
  shortestFrom span (leadingPower span 640 310) 17 0

/-- Digits in positional notation, given the power of ten of the last digit. -/
def positional (digits : List Char) (power : Int) : List Char :=
  if 0 <= power then
    digits ++ List.replicate power.toNat '0' ++ ['.', '0']
  else
    let places := (-power).toNat
    let padded := List.replicate (places + 1 - digits.length) '0' ++ digits
    padded.take (padded.length - places) ++ '.' :: padded.drop (padded.length - places)

/-- Drop the zeros at the end of a number's digits. -/
def trimZeros (digits : List Char) (power : Int) : List Char × Int :=
  let zeros := (digits.reverse.takeWhile (· == '0')).length
  (digits.take (digits.length - zeros), power + zeros)

/-- A binary number in positional decimal notation. -/
def text (value : Binary64) : String :=
  let sign := if value.negative then ['-'] else []
  if value.significand = 0 then
    String.ofList (sign ++ ['0', '.', '0'])
  else
    let (count, lastPower) := value.shortestDigits
    let (digits, power) := trimZeros (Nat.toDigits 10 count) lastPower
    String.ofList (sign ++ positional digits power)

end Binary64
end EntitySchema
