import EntitySchema.Json

/-!
# Numerals of a document

A numeral is a sign, whole digits, and perhaps digits after a point and a power of ten.  Its
significand takes as many leading digits as fit 64 bits; further whole digits only raise the
power of ten and further digits after the point are dropped.
-/

namespace EntitySchema
namespace Json

/-- A numeral as it is written. -/
structure Numeral where
  /-- Whether a minus sign stands in front. -/
  negative : Bool
  /-- The digits before the point. -/
  whole : List Char
  /-- The digits after the point, if there is a point. -/
  fraction : Option (List Char)
  /-- The sign and digits of the power of ten, if there is one. -/
  exponent : Option (Bool × List Char)

namespace Numeral

/-- The value of a digit. -/
def digitValue (digit : Char) : Nat :=
  digit.toNat - '0'.toNat

/-- Append digits to a significand as long as it fits 64 bits, and return it with the digits
that are left. -/
def absorb (significand : Nat) : List Char -> Nat × List Char
  | [] => (significand, [])
  | digit :: rest =>
      let extended := 10 * significand + digitValue digit
      if extended < Nat.pow 2 64 then absorb extended rest else (significand, digit :: rest)

/-- The value of a list of digits. -/
def digitsValue (digits : List Char) : Nat :=
  digits.foldl (fun value digit => 10 * value + digitValue digit) 0

/-- The written power of ten. -/
def writtenExponent (numeral : Numeral) : Int :=
  match numeral.exponent with
  | none => 0
  | some (true, digits) => -Int.ofNat (digitsValue digits)
  | some (false, digits) => Int.ofNat (digitsValue digits)

/-- The binary number nearest to a numeral, as far as the significand goes. -/
def real? (numeral : Numeral) : Option Number :=
  let (wholePart, droppedDigits) := absorb 0 numeral.whole
  let fractionDigits := numeral.fraction.getD []
  let (significand, unusedDigits) := absorb wholePart fractionDigits
  let usedDigits := fractionDigits.length - unusedDigits.length
  let exponent := Int.ofNat droppedDigits.length - Int.ofNat usedDigits
  (Binary64.ofDecimal? numeral.negative significand (exponent + numeral.writtenExponent)).map
    Number.real

/-- The number that a numeral denotes, unless it is beyond every representable one.  A plain
whole number is kept exactly where it fits a 64-bit word; minus zero does not. -/
def number? (numeral : Numeral) : Option Number :=
  match numeral.fraction, numeral.exponent, absorb 0 numeral.whole with
  | none, none, (value, []) =>
      if !numeral.negative then some (.natural value)
      else if 0 < value && value <= Nat.pow 2 63 then some (.negative value)
      else numeral.real?
  | _, _, _ => numeral.real?

end Numeral

/-- The value of a numeral in a document. -/
def ofNumeral (numeral : Numeral) : Json :=
  match numeral.number? with
  | some value => .number value
  | none => .unreadable .numberOutOfRange

end Json
end EntitySchema
