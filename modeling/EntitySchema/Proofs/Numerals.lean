import EntitySchema.Configuration.Reader
import Mathlib.Data.Nat.Digits.Defs

/-!
# Decimal numerals

The decimal digits of a whole number are read back as the number wherever numerals are read: in the
numerals of JSON text, in plain scalars, and in options that are spelled as texts.  A value only
grows while its digits are read, so a number that fits is never refused on the way.
-/

namespace EntitySchema

/-! ## Digits of a number -/

namespace Numeral

/-- A value only grows while more digits are read. -/
theorem le_ofDigitChars (digits : List Char) (value : Nat) :
    value ≤ Nat.ofDigitChars 10 digits value := by
  rw [Nat.ofDigitChars_eq_ofDigitChars_zero]
  have grows : value ≤ 10 ^ digits.length * value :=
    Nat.le_mul_of_pos_left value (Nat.pow_pos (by decide))
  omega

theorem isDigit_of_mem
    {value : Nat}
    {digit : Char}
    (member : digit ∈ Nat.toDigits 10 value) :
    digit.isDigit :=
  Nat.isDigit_of_mem_toDigits (by decide) (by decide) member

/-- Only zero starts with the digit zero, and it has no other digit. -/
theorem toDigits_of_zero_cons
    {value : Nat}
    {rest : List Char}
    (shape : Nat.toDigits 10 value = '0' :: rest) :
    rest = [] := by
  induction value using Nat.strong_induction_on generalizing rest with
  | _ value inductionHypothesis =>
      by_cases small : value < 10
      · rw [Nat.toDigits_of_lt_base small] at shape
        exact (List.cons.inj shape).2.symm
      · have large : 10 ≤ value := Nat.le_of_not_lt small
        rw [Nat.toDigits_of_base_le (by decide) large] at shape
        cases digits : Nat.toDigits 10 (value / 10) with
        | nil => exact absurd digits Nat.toDigits_ne_nil
        | cons first others =>
            rw [digits, List.cons_append] at shape
            obtain ⟨rfl, -⟩ := List.cons.inj shape
            -- All digits but the last would spell zero, but the number has at least two digits.
            have short := inductionHypothesis (value / 10) (by omega) digits
            have spelled := Nat.ofDigitChars_ten_toDigits (n := value / 10)
            rw [digits, short] at spelled
            have zero : value / 10 = 0 := spelled.symm
            omega

theorem exists_digit_cons (value : Nat) :
    ∃ first rest, Nat.toDigits 10 value = first :: rest ∧ first.isDigit := by
  cases digits : Nat.toDigits 10 value with
  | nil => exact absurd digits Nat.toDigits_ne_nil
  | cons first rest =>
      have member : first ∈ Nat.toDigits 10 value := by
        rw [digits]
        exact List.mem_cons_self
      exact ⟨first, rest, rfl, isDigit_of_mem member⟩

theorem toList_toString (value : Nat) : (toString value).toList = Nat.toDigits 10 value := by
  rw [Nat.toString_eq_ofList_toDigits, String.toList_ofList]

end Numeral

/-! ## Reading numerals -/

namespace Json
namespace Numeral

/-- Digits of a value that fits are absorbed to the last. -/
theorem absorb_eq
    {digits : List Char}
    {value : Nat}
    (fits : Nat.ofDigitChars 10 digits value < Nat.pow 2 64) :
    absorb value digits = (Nat.ofDigitChars 10 digits value, []) := by
  induction digits generalizing value with
  | nil => rfl
  | cons digit rest inductionHypothesis =>
      rw [Nat.ofDigitChars_cons] at fits ⊢
      have grows := EntitySchema.Numeral.le_ofDigitChars rest
        (10 * value + (digit.toNat - '0'.toNat))
      unfold absorb digitValue
      simp only [if_pos (Nat.lt_of_le_of_lt grows fits)]
      exact inductionHypothesis fits

/-- What is absorbed fits. -/
theorem absorb_lt
    {digits : List Char}
    {value : Nat}
    (fits : value < Nat.pow 2 64) :
    (absorb value digits).1 < Nat.pow 2 64 := by
  induction digits generalizing value with
  | nil => exact fits
  | cons digit rest inductionHypothesis =>
      unfold absorb
      dsimp only
      split_ifs with extended
      · exact inductionHypothesis extended
      · exact fits

end Numeral
end Json

namespace Configuration

/-- Digits whose value fits are read as this value, since no value on the way is larger. -/
theorem naturalOfDigits_eq
    {digits : List Char}
    {value : Nat}
    (proper : ∀ digit ∈ digits, digit.isDigit)
    (fits : Nat.ofDigitChars 10 digits value < Nat.pow 2 64) :
    naturalOfDigits value digits = .ok (Nat.ofDigitChars 10 digits value) := by
  induction digits generalizing value with
  | nil => rfl
  | cons digit rest inductionHypothesis =>
      rw [List.forall_mem_cons] at proper
      rw [Nat.ofDigitChars_cons] at fits ⊢
      have grows := Numeral.le_ofDigitChars rest (10 * value + (digit.toNat - '0'.toNat))
      unfold naturalOfDigits
      simp only [proper.1, Bool.not_true, Bool.false_eq_true, if_false,
        if_pos (Nat.lt_of_le_of_lt grows fits)]
      exact inductionHypothesis proper.2 fits

/-- The digits of a number that fits spell the number. -/
theorem naturalOfText_toDigits
    {value : Nat}
    (fits : value < Nat.pow 2 64) :
    naturalOfText (Nat.toDigits 10 value) = .ok value := by
  obtain ⟨first, rest, digits, isDigit⟩ := Numeral.exists_digit_cons value
  have noPlus : first ≠ '+' := by
    rintro rfl
    cases isDigit
  have read : naturalOfDigits 0 (Nat.toDigits 10 value) = .ok value := by
    rw [naturalOfDigits_eq (fun _ => Numeral.isDigit_of_mem), Nat.ofDigitChars_ten_toDigits]
    rwa [Nat.ofDigitChars_ten_toDigits]
  rw [digits] at read ⊢
  unfold naturalOfText
  split <;> simp_all

end Configuration

namespace Yaml
namespace PlainValue

theorem digitIn?_ten
    {digit : Char}
    (isDigit : digit.isDigit) :
    digitIn? 10 digit = some (digit.toNat - '0'.toNat) := by
  have small : digit.toNat - '0'.toNat < 10 := by
    have bounds := Char.isDigit_iff_toNat.mp isDigit
    change 48 ≤ digit.toNat ∧ digit.toNat ≤ 57 at bounds
    change digit.toNat - 48 < 10
    omega
  unfold digitIn?
  simp only [isDigit, if_true, if_pos small]

/-- Digit by digit, a numeral to the base ten is read as its value. -/
theorem foldlM_digitIn?_ten
    {digits : List Char}
    (proper : ∀ digit ∈ digits, digit.isDigit)
    (value : Nat) :
    digits.foldlM (fun value digit => (digitIn? 10 digit).map (10 * value + ·)) value =
      some (Nat.ofDigitChars 10 digits value) := by
  induction digits generalizing value with
  | nil => rfl
  | cons digit rest inductionHypothesis =>
      rw [List.forall_mem_cons] at proper
      rw [List.foldlM_cons, digitIn?_ten proper.1, Nat.ofDigitChars_cons]
      exact inductionHypothesis proper.2 _

theorem dropSign_of_isDigit
    {first : Char}
    (isDigit : first.isDigit)
    (rest : List Char) :
    dropSign (first :: rest) = first :: rest := by
  unfold dropSign
  split
  · next same =>
      obtain ⟨rfl, -⟩ := List.cons.inj same
      cases isDigit
  · next same =>
      obtain ⟨rfl, -⟩ := List.cons.inj same
      cases isDigit
  · rfl

theorem isZeroPadded_toDigits (value : Nat) : isZeroPadded (Nat.toDigits 10 value) = false := by
  obtain ⟨first, rest, digits, isDigit⟩ := Numeral.exists_digit_cons value
  unfold isZeroPadded
  rw [digits, dropSign_of_isDigit isDigit]
  split
  · next same => cases Numeral.toDigits_of_zero_cons (digits.trans same)
  · rfl

theorem magnitude?_toDigits (value : Nat) : magnitude? (Nat.toDigits 10 value) = some value := by
  -- A mark of another base would follow a leading zero.
  have decimal : magnitude? (Nat.toDigits 10 value) = digitsIn? 10 (Nat.toDigits 10 value) := by
    unfold magnitude?
    split
    · next same => cases Numeral.toDigits_of_zero_cons same
    · next same => cases Numeral.toDigits_of_zero_cons same
    · next same => cases Numeral.toDigits_of_zero_cons same
    · rfl
  have nonempty : (Nat.toDigits 10 value).isEmpty = false := by
    rw [List.isEmpty_eq_false_iff]
    exact Nat.toDigits_ne_nil
  rw [decimal, digitsIn?, nonempty, foldlM_digitIn?_ten fun _ => Numeral.isDigit_of_mem,
    Nat.ofDigitChars_ten_toDigits]
  rfl

/-- A whole number that fits is read back from its digits. -/
theorem whole?_toDigits
    {value : Nat}
    (fits : value < Nat.pow 2 64) :
    whole? (Nat.toDigits 10 value) = some value := by
  have wide : value < Nat.pow 2 128 := Nat.lt_trans fits (by decide)
  have read := magnitude?_toDigits value
  obtain ⟨first, rest, digits, isDigit⟩ := Numeral.exists_digit_cons value
  unfold whole?
  rw [isZeroPadded_toDigits]
  rw [digits] at read ⊢
  split
  · next padded => cases padded
  · split
    · next same =>
        obtain ⟨rfl, -⟩ := List.cons.inj same
        cases isDigit
    · dsimp only
      split
      · next same =>
          obtain ⟨rfl, -⟩ := List.cons.inj same
          cases isDigit
      · rw [read, Option.bind_some, if_pos wide]
        rfl

/-- The digits of a number that fits 64 bits denote the number. -/
theorem ofText_toString
    {value : Nat}
    (fits : value < Nat.pow 2 64) :
    ofText (toString value) = .whole value := by
  have differs : ∀ word : String, word.toList.head?.any Char.isDigit = false →
      toString value ≠ word := by
    rintro word start rfl
    obtain ⟨first, rest, digits, isDigit⟩ := Numeral.exists_digit_cons value
    rw [Numeral.toList_toString, digits, List.head?_cons, Option.any_some, isDigit] at start
    cases start
  have noWord : ∀ words : List String,
      (∀ word ∈ words, word.toList.head?.any Char.isDigit = false) →
        words.contains (toString value) = false := by
    intro words start
    rw [← Bool.not_eq_true, List.contains_iff_mem]
    exact fun member => differs _ (start _ member) rfl
  unfold ofText
  rw [noWord _ (by decide), noWord _ (by decide), noWord _ (by decide), Numeral.toList_toString,
    whole?_toDigits fits]
  rfl

end PlainValue
end Yaml
end EntitySchema
