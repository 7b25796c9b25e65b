/-!
Contract: numbers of 64 bits, unsigned whole ones and finite binary floating-point ones.

Owns:
- reading whole numbers: one or more ASCII digits, with or without a plus sign in front, where
  leading zeros change nothing and a value of 2^64 or more is none;
- floating-point numbers with exact arithmetic, a sign and `significand · 2 ^ exponent`;
- `nearest`, the number closest to a fraction, ties to the even significand;
- product and quotient, each rounded once.

Does not own: infinities and NaN, which no number written in decimal is read as; the decimal text
of a floating-point number.
-/

namespace LibraryScout.Number

/-! ## Whole numbers -/

/-- The least number beyond the range. -/
def wholeLimit : Nat :=
  Nat.pow 2 64

/-- The value of decimal digits that continue a number, if all of them are digits. -/
def digitsValue? (value : Nat) : List Char → Option Nat
  | [] => some value
  | digit :: later =>
      if digit.isDigit then digitsValue? (value * 10 + (digit.toNat - '0'.toNat)) later else none

/-- The number that a text of digits stands for. -/
def digits? (text : List Char) : Option Nat :=
  match text with
  | [] => none
  | _ => (digitsValue? 0 text).filter fun value => value < wholeLimit

/-- The number that a text stands for. -/
def whole? (text : String) : Option Nat :=
  match text.toList with
  | '+' :: later => digits? later
  | written => digits? written

/-! ## Floating-point numbers -/

/-- A finite number `± significand · 2 ^ exponent`. The significand has at most 53 bits, the
exponent is at least −1074, and it is the least one for which the significand fits. -/
structure Binary64 where
  negative : Bool
  significand : Nat
  exponent : Int
deriving DecidableEq, Repr

namespace Binary64

/-- The number of binary digits. -/
def bitLength (number : Nat) : Nat :=
  if number = 0 then 0 else Nat.log2 number + 1

/-- A quotient rounded to the nearest whole number, a half to the even neighbour. -/
def roundedQuotient (numerator denominator : Nat) : Nat :=
  let quotient := numerator / denominator
  let doubled := 2 * (numerator % denominator)
  if doubled > denominator || (doubled == denominator && quotient % 2 == 1) then
    quotient + 1
  else
    quotient

/-- Numerator and denominator of a fraction divided by `2 ^ exponent`. -/
def scaledDown (numerator denominator : Nat) (exponent : Int) : Nat × Nat :=
  (numerator * Nat.pow 2 (-exponent).toNat, denominator * Nat.pow 2 exponent.toNat)

/-- Significand and exponent of the number nearest to a fraction, and nothing if that number is
beyond the largest one. -/
def nearest (numerator denominator : Nat) : Option (Nat × Int) :=
  if numerator = 0 then
    some (0, -1074)
  else
    let guess : Int := (bitLength numerator : Int) - bitLength denominator - 53
    let trial := scaledDown numerator denominator guess
    let fitting := if trial.1 / trial.2 ≥ Nat.pow 2 53 then guess + 1 else guess
    let exponent := max fitting (-1074)
    let scaled := scaledDown numerator denominator exponent
    let significand := roundedQuotient scaled.1 scaled.2
    let result :=
      if significand = Nat.pow 2 53 then (Nat.pow 2 52, exponent + 1) else (significand, exponent)
    if result.2 > 971 then none else some result

/-- Numerator and denominator of the absolute value. -/
def fraction (number : Binary64) : Nat × Nat :=
  (number.significand * Nat.pow 2 number.exponent.toNat,
    Nat.pow 2 (-number.exponent).toNat)

def zero : Binary64 :=
  ⟨false, 0, -1074⟩

def isZero (number : Binary64) : Bool :=
  number.significand == 0

/-- The nearest number to a whole number, if it is not too large. -/
def ofNat? (value : Nat) : Option Binary64 :=
  (nearest value 1).map fun (significand, exponent) => ⟨false, significand, exponent⟩

/-- The product of absolute values, rounded once. -/
def times? (left right : Binary64) : Option Binary64 :=
  let (leftNumerator, leftDenominator) := left.fraction
  let (rightNumerator, rightDenominator) := right.fraction
  (nearest (leftNumerator * rightNumerator) (leftDenominator * rightDenominator)).map
    fun (significand, exponent) => ⟨false, significand, exponent⟩

/-- The quotient of absolute values, rounded once; division by zero gives nothing. -/
def dividedBy? (left right : Binary64) : Option Binary64 :=
  let (leftNumerator, leftDenominator) := left.fraction
  let (rightNumerator, rightDenominator) := right.fraction
  if rightNumerator = 0 then
    none
  else
    (nearest (leftNumerator * rightDenominator) (leftDenominator * rightNumerator)).map
      fun (significand, exponent) => ⟨false, significand, exponent⟩

/-- The number with the other sign. -/
def negated (number : Binary64) : Binary64 :=
  { number with negative := !number.negative }

end Binary64

end LibraryScout.Number
