import LibraryScout.Number.Basic

/-!
Contract: the shortest decimal that reads back as a given binary number.

The decimals that read back as a number form an interval whose ends lie half way to its
neighbours; the ends belong to it when the significand is even. For one digit, two digits and so
on, the two decimals of that length around the number are tried; the first length with one of
them in the interval wins, and of two the nearer.

`FloatLayout` says how such a decimal is written.
-/

namespace LibraryScout.Number

/-- A decimal `digits · 10 ^ exponent` without a sign. -/
structure Decimal where
  digits : Nat
  exponent : Int
deriving DecidableEq, Repr

namespace Decimal

/-- The number of decimal digits; zero has one. -/
def width (number : Nat) : Nat :=
  (Nat.toDigits 10 number).length

/-- The same decimal without trailing zeros among its digits. -/
def stripped : (fuel : Nat) → Decimal → Decimal
  | 0, decimal => decimal
  | fuel + 1, decimal =>
      if decimal.digits ≠ 0 && decimal.digits % 10 == 0 then
        stripped fuel ⟨decimal.digits / 10, decimal.exponent + 1⟩
      else
        decimal

/-- The least power of ten above a positive fraction. -/
def magnitude (numerator denominator : Nat) : Int :=
  if numerator ≥ denominator then
    width (numerator / denominator)
  else
    let inverse := (denominator + numerator - 1) / numerator
    1 - (width (inverse - 1) : Int)

/-- The interval of fractions that read back as a positive number: lower end, middle and upper end
over one denominator, and whether the ends belong to it. -/
structure Interval where
  lower : Nat
  middle : Nat
  upper : Nat
  denominator : Nat
  closed : Bool

def Interval.of (number : Binary64) : Interval :=
  let (numerator, denominator) := number.fraction
  let unit := 4 * Nat.pow 2 number.exponent.toNat
  let atPower := number.significand == Nat.pow 2 52 && number.exponent > -1074
  { lower := 4 * numerator - (if atPower then unit / 4 else unit / 2)
    middle := 4 * numerator
    upper := 4 * numerator + unit / 2
    denominator := 4 * denominator
    closed := number.significand % 2 == 0 }

/-- The multiples of `10 ^ exponent` next to the middle of an interval, as far as they lie in the
interval, with their distances from the middle. -/
def Interval.candidates (interval : Interval) (exponent : Int) : List (Nat × Nat) :=
  let up := Nat.pow 10 exponent.toNat
  let down := Nat.pow 10 (-exponent).toNat
  let below := interval.middle * down / (interval.denominator * up)
  [below, below + 1].filterMap fun digits =>
    let value := digits * up * interval.denominator
    let lower := interval.lower * down
    let upper := interval.upper * down
    let middle := interval.middle * down
    let inside :=
      if interval.closed then lower ≤ value && value ≤ upper else lower < value && value < upper
    if inside then some (digits, max value middle - min value middle) else none

/-- The nearer of the candidates; of two equally near ones the even one. -/
def closest : List (Nat × Nat) → Option Nat
  | [] => none
  | [(digits, _)] => some digits
  | (first, firstDistance) :: (second, secondDistance) :: _ =>
      if firstDistance < secondDistance then some first
      else if secondDistance < firstDistance then some second
      else if first % 2 == 0 then some first
      else some second

/-- Tries lengths from `length` on, at most `more` of them. -/
def search (interval : Interval) (top : Int) (length : Nat) : (more : Nat) → Decimal
  | 0 => ⟨0, 0⟩
  | more + 1 =>
      match closest (interval.candidates (top - length)) with
      | some digits => stripped 20 ⟨digits, top - length⟩
      | none => search interval top (length + 1) more

/-- The shortest decimal that reads back as the absolute value of a number. -/
def shortest (number : Binary64) : Decimal :=
  if number.isZero then
    ⟨0, 0⟩
  else
    let (numerator, denominator) := number.fraction
    search (Interval.of number) (magnitude numerator denominator) 1 17

end Decimal

/-- How a floating-point number is written: a positive exponent with or without its sign. Numbers
from `1e-5` up to, not including, `1e16` are written positionally with at least one digit after
the point. -/
structure FloatLayout where
  plusInExponent : Bool
deriving DecidableEq, Repr

namespace FloatLayout

/-- The text of an exponent. -/
def exponentText (layout : FloatLayout) (exponent : Int) : String :=
  let sign := if exponent < 0 then "-" else if layout.plusInExponent then "+" else ""
  sign ++ toString exponent.natAbs

/-- The text of a decimal without a sign. -/
def textOfDecimal (layout : FloatLayout) (decimal : Decimal) : String :=
  let digits := Nat.toDigits 10 decimal.digits
  let length : Int := digits.length
  let point := length + decimal.exponent
  if decimal.digits = 0 then
    "0.0"
  else if 0 ≤ decimal.exponent && point ≤ 16 then
    String.ofList (digits ++ List.replicate decimal.exponent.toNat '0') ++ ".0"
  else if 0 < point && point ≤ 16 then
    String.ofList (digits.take point.toNat ++ '.' :: digits.drop point.toNat)
  else if -5 < point && point ≤ 0 then
    "0." ++ String.ofList (List.replicate (-point).toNat '0' ++ digits)
  else
    match digits with
    | [only] => String.ofList [only] ++ "e" ++ layout.exponentText (point - 1)
    | first :: others =>
        String.ofList (first :: '.' :: others) ++ "e" ++ layout.exponentText (point - 1)
    | [] => ""

/-- The text of a number. -/
def text (layout : FloatLayout) (number : Binary64) : String :=
  let body := layout.textOfDecimal (Decimal.shortest number)
  if number.negative then "-" ++ body else body

end FloatLayout

end LibraryScout.Number
