import EntitySchema.Number.Binary64

/-!
# Plain scalars

A scalar without quotes denotes null, a truth value, a whole number, another number, or else its
own text.  Whole numbers have at most 128 bits.  Digits after a leading zero are no number.
-/

namespace EntitySchema
namespace Yaml

/-- What a plain scalar denotes. -/
inductive PlainValue
  | null
  | flag (value : Bool)
  | whole (value : Int)
  | real
  | ownText
  deriving DecidableEq, Repr

namespace PlainValue

/-- The value of a digit in a base of at most sixteen. -/
def digitIn? (base : Nat) (digit : Char) : Option Nat :=
  let value :=
    if digit.isDigit then digit.toNat - '0'.toNat
    else if 'a' <= digit && digit <= 'f' then digit.toNat - 'a'.toNat + 10
    else if 'A' <= digit && digit <= 'F' then digit.toNat - 'A'.toNat + 10
    else base
  if value < base then some value else none

/-- The value of one or more digits in a base. -/
def digitsIn? (base : Nat) (digits : List Char) : Option Nat :=
  if digits.isEmpty then none
  else digits.foldlM (fun value digit => (digitIn? base digit).map (base * value + ·)) 0

/-- Remove one plus sign or one minus sign. -/
def dropSign : List Char -> List Char
  | '+' :: rest => rest
  | '-' :: rest => rest
  | text => text

/-- Whether a text is two or more digits, the first of which is zero. -/
def isZeroPadded (text : List Char) : Bool :=
  match dropSign text with
  | '0' :: digit :: rest => (digit :: rest).all Char.isDigit
  | _ => false

/-- The value of digits after the mark of a base, or of decimal digits. -/
def magnitude? : List Char -> Option Nat
  | '0' :: 'x' :: digits => digitsIn? 16 digits
  | '0' :: 'o' :: digits => digitsIn? 8 digits
  | '0' :: 'b' :: digits => digitsIn? 2 digits
  | digits => digitsIn? 10 digits

/-- The whole number that a text spells, if it fits 128 bits. -/
def whole? (text : List Char) : Option Int :=
  if isZeroPadded text then none
  else
    match text with
    | '-' :: digits =>
        (magnitude? digits).bind fun value =>
          if value <= Nat.pow 2 127 then some (-Int.ofNat value) else none
    | _ =>
        let digits :=
          match text with
          | '+' :: rest => rest
          | _ => text
        (magnitude? digits).bind fun value =>
          if value < Nat.pow 2 128 then some (Int.ofNat value) else none

/-! ## Numbers with a point or a power of ten -/

/-- Split digits off a text. -/
def splitDigits (text : List Char) : List Char × List Char :=
  (text.takeWhile Char.isDigit, text.dropWhile Char.isDigit)

/-- The power of ten at the end of a decimal, zero where there is none. -/
def powerOfTen? : List Char -> Option Int
  | [] => some 0
  | mark :: rest =>
      if mark = 'e' || mark = 'E' then
        match rest with
        | '-' :: digits => (digitsIn? 10 digits).map fun value => -Int.ofNat value
        | '+' :: digits => (digitsIn? 10 digits).map Int.ofNat
        | digits => (digitsIn? 10 digits).map Int.ofNat
      else none

/-- The digits and the power of ten of an unsigned decimal. -/
def decimal? (text : List Char) : Option (List Char × Int) :=
  let (wholeDigits, afterWhole) := splitDigits text
  let (fractionDigits, rest) :=
    match afterWhole with
    | '.' :: afterPoint => splitDigits afterPoint
    | _ => ([], afterWhole)
  if wholeDigits.isEmpty && fractionDigits.isEmpty then none
  else
    (powerOfTen? rest).map fun power =>
      (wholeDigits ++ fractionDigits, power - Int.ofNat fractionDigits.length)

/-- Whether a decimal lies within the range of binary numbers. -/
def isRepresentable (digits : List Char) (power : Int) : Bool :=
  let significant := digits.dropWhile (· == '0')
  let size := Int.ofNat significant.length + power
  if significant.isEmpty || size < 0 then true
  else if 310 < size then false
  else
    let value := (digitsIn? 10 significant).getD 0
    let (numerator, denominator) :=
      if 0 <= power then (value * Nat.pow 10 power.toNat, 1) else (value, Nat.pow 10 (-power).toNat)
    (Binary64.nearest? false numerator denominator).isSome

/-- Whether a text spells infinity or the value that is no number. -/
def isSpecialReal (text : List Char) : Bool :=
  let infinities := [".inf", ".Inf", ".INF"].map String.toList
  infinities.contains text ||
    infinities.any (fun infinity => text = '+' :: infinity || text = '-' :: infinity) ||
    ([".nan", ".NaN", ".NAN"].map String.toList).contains text

/-- Whether a text spells a number that need not be whole. -/
def isReal (text : List Char) : Bool :=
  isSpecialReal text ||
    match decimal? (dropSign text) with
    | some (digits, power) => isRepresentable digits power
    | none => false

/-- What a plain scalar denotes. -/
def ofText (text : String) : PlainValue :=
  if ["", "null", "Null", "NULL", "~"].contains text then null
  else if ["true", "True", "TRUE"].contains text then flag true
  else if ["false", "False", "FALSE"].contains text then flag false
  else
    match whole? text.toList with
    | some value => whole value
    | none =>
        if !isZeroPadded text.toList && isReal text.toList then real else ownText

end PlainValue
end Yaml
end EntitySchema
