/-!
# Binary floating point numbers

A number of the 64-bit binary format is a sign and a significand of at most 53 bits times a
power of two.  Every operation rounds its exact result to the nearest such number, and to the
one with the even significand when two are equally near.
-/

namespace EntitySchema

/-- A finite binary number: `significand * 2 ^ exponent`, negated or not. -/
structure Binary64 where
  /-- Whether the number is negated; zero has two signs. -/
  negative : Bool
  /-- The significand, below `2 ^ 53`. -/
  significand : Nat
  /-- The power of two, at least `-1074`. -/
  exponent : Int
  deriving DecidableEq, Repr

namespace Binary64

/-- The least exponent. -/
def leastExponent : Int := -1074

/-- The greatest exponent. -/
def greatestExponent : Int := 971

/-- Multiply a fraction by a power of two, on the side where the power is a whole number. -/
def scaleFraction (numerator denominator : Nat) (power : Int) : Nat × Nat :=
  if 0 <= power then (numerator * Nat.pow 2 power.toNat, denominator)
  else (numerator, denominator * Nat.pow 2 (-power).toNat)

/-- The whole number nearest to a fraction, the even one of two equally near. -/
def roundQuotient (numerator denominator : Nat) : Nat :=
  let quotient := numerator / denominator
  let doubledRest := 2 * (numerator % denominator)
  if doubledRest < denominator then quotient
  else if denominator < doubledRest then quotient + 1
  else quotient + quotient % 2

/-- The exponent that gives a positive fraction a significand of 53 bits, or the least exponent
where that would lie below it. -/
def fittingExponent (numerator denominator : Nat) : Int :=
  let estimate : Int := Int.ofNat numerator.log2 - Int.ofNat denominator.log2 - 52
  let (scaledNumerator, scaledDenominator) :=
    scaleFraction numerator denominator (-estimate)
  let exponent :=
    if scaledNumerator < Nat.pow 2 52 * scaledDenominator then estimate - 1 else estimate
  max exponent leastExponent

/-- The binary number nearest to a fraction, unless it is beyond the greatest one. -/
def nearest? (negative : Bool) (numerator denominator : Nat) : Option Binary64 :=
  if numerator = 0 then
    some ⟨negative, 0, leastExponent⟩
  else
    let exponent := fittingExponent numerator denominator
    let (scaledNumerator, scaledDenominator) :=
      scaleFraction numerator denominator (-exponent)
    let rounded := roundQuotient scaledNumerator scaledDenominator
    let result : Binary64 :=
      if rounded = Nat.pow 2 53 then ⟨negative, Nat.pow 2 52, exponent + 1⟩
      else ⟨negative, rounded, exponent⟩
    if result.exponent <= greatestExponent then some result else none

/-- The product of two binary numbers, unless it is beyond the greatest one. -/
def mul? (left right : Binary64) : Option Binary64 :=
  let (numerator, denominator) :=
    scaleFraction (left.significand * right.significand) 1 (left.exponent + right.exponent)
  nearest? (left.negative != right.negative) numerator denominator

/-- The quotient of two binary numbers, the second of which is not zero, unless it is beyond the
greatest one. -/
def div? (left right : Binary64) : Option Binary64 :=
  let (numerator, denominator) :=
    scaleFraction left.significand right.significand (left.exponent - right.exponent)
  nearest? (left.negative != right.negative) numerator denominator

/-- The binary number nearest to a power of ten, unless it is beyond the greatest one. -/
def powerOfTen? (exponent : Nat) : Option Binary64 :=
  nearest? false (Nat.pow 10 exponent) 1

/-- The greatest exponent of a power of ten that is scaled by in one step. -/
def greatestTenExponent : Nat := 308

/-- Scale a binary number by a power of ten, in steps that each round and of which there are at
most the given number.  Nothing is returned for a result beyond the greatest number. -/
def scaleByTen? : Nat -> Binary64 -> Int -> Option Binary64
  | 0, value, _ => some value
  | steps + 1, value, exponent =>
      if exponent.natAbs <= greatestTenExponent then
        (powerOfTen? exponent.natAbs).bind fun power =>
          if 0 <= exponent then value.mul? power else value.div? power
      else if value.significand = 0 then
        some value
      else if 0 <= exponent then
        none
      else
        match (powerOfTen? greatestTenExponent).bind fun power => value.div? power with
        | none => none
        | some smaller => scaleByTen? steps smaller (exponent + greatestTenExponent)

/-- The binary number for a decimal significand and a power of ten. -/
def ofDecimal? (negative : Bool) (significand : Nat) (exponent : Int) : Option Binary64 :=
  (nearest? negative significand 1).bind fun value =>
    scaleByTen? (exponent.natAbs + 1) value exponent

end Binary64
end EntitySchema
