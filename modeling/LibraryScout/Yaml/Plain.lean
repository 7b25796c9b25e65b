import LibraryScout.Json.Reader

/-!
Contract: plain YAML texts that would be read as something else than a string.

Null, the two truth values, whole numbers in four bases and floating-point numbers have plain
spellings; so do whole numbers with leading zeros, which are strings but look like numbers. A
string with such a spelling has to be quoted.
-/

namespace LibraryScout.Yaml.Plain

open LibraryScout.Json (isDigit digitValue)
open LibraryScout.Number (Binary64)

/-- The spellings of null. -/
def nulls : List String :=
  ["", "null", "Null", "NULL", "~"]

/-- The spellings of the truth values. -/
def booleans : List String :=
  ["true", "True", "TRUE", "false", "False", "FALSE"]

/-- A text without one plus sign at its start; a second sign is not allowed. -/
def withoutPlus? : List Char → Option (List Char)
  | '+' :: '+' :: _ => none
  | '+' :: '-' :: _ => none
  | '+' :: rest => some rest
  | text => some text

/-- The value of a non-empty text of digits in a base up to sixteen. -/
def digitsValue? (base : Nat) (text : List Char) : Option Nat :=
  let step (total? : Option Nat) (character : Char) : Option Nat :=
    match total?, Json.hexValue? character with
    | some total, some digit => if digit < base then some (total * base + digit) else none
    | _, _ => none
  if text.isEmpty then none else text.foldl step (some 0)

/-- A whole number of at most 128 bits in base sixteen, eight or two. -/
def isBasedInteger (text : List Char) : Bool :=
  let within (limit : Nat) (value? : Option Nat) : Bool :=
    match value? with
    | some value => value ≤ limit
    | none => false
  let unsigned (limit : Nat) (body : List Char) : Bool :=
    match body with
    | '0' :: 'x' :: digits => within limit (digitsValue? 16 digits)
    | '0' :: 'o' :: digits => within limit (digitsValue? 8 digits)
    | '0' :: 'b' :: digits => within limit (digitsValue? 2 digits)
    | _ => false
  match text with
  | '-' :: body => unsigned (Nat.pow 2 127) body
  | _ =>
      match withoutPlus? text with
      | some body => unsigned (Nat.pow 2 128 - 1) body
      | none => false

/-- A whole number with leading zeros, perhaps after a sign. -/
def isZeroPadded (text : List Char) : Bool :=
  let body :=
    match text with
    | '-' :: rest => rest
    | '+' :: rest => rest
    | _ => text
  match body with
  | '0' :: rest => !rest.isEmpty && rest.all isDigit
  | _ => false

/-- The value of a text of decimal digits. -/
def decimalValue (digits : List Char) : Nat :=
  digits.foldl (fun total digit => total * 10 + digitValue digit) 0

/-- A significand scaled by a power of ten is within the range of floating-point numbers. -/
def isFinite (significand : Nat) (exponent : Int) : Bool :=
  let top := (LibraryScout.Number.Decimal.width significand : Int) + exponent
  if significand = 0 || top < 300 then true
  else if top > 310 then false
  else
    (Binary64.nearest (significand * Nat.pow 10 exponent.toNat)
      (Nat.pow 10 (-exponent).toNat)).isSome

/-- The exponent after its letter: a sign and digits. -/
def exponent? (text : List Char) : Option Int :=
  let signed (negative : Bool) (digits : List Char) : Option Int :=
    if !digits.isEmpty && digits.all isDigit then
      let value : Int := decimalValue digits
      some (if negative then -value else value)
    else
      none
  match text with
  | '-' :: digits => signed true digits
  | '+' :: digits => signed false digits
  | digits => signed false digits

/-- A decimal number with a point, an exponent, both or neither, within the range of
floating-point numbers. -/
def isDecimal (text : List Char) : Bool :=
  let body :=
    match text with
    | '-' :: rest => rest
    | '+' :: rest => rest
    | _ => text
  let whole := body.takeWhile isDigit
  let afterWhole := body.dropWhile isDigit
  let (fraction, rest) :=
    match afterWhole with
    | '.' :: more => (more.takeWhile isDigit, more.dropWhile isDigit)
    | _ => ([], afterWhole)
  let digits := whole ++ fraction
  if digits.isEmpty then
    false
  else
    let start : Int := -(fraction.length : Int)
    match rest with
    | [] => isFinite (decimalValue digits) start
    | letter :: more =>
        if letter = 'e' || letter = 'E' then
          match exponent? more with
          | some exponent => isFinite (decimalValue digits) (start + exponent)
          | none => false
        else
          false

/-- The spellings of infinities and of the number that is none. -/
def specials : List String :=
  [".inf", ".Inf", ".INF", "+.inf", "+.Inf", "+.INF", "-.inf", "-.Inf", "-.INF", ".nan", ".NaN",
   ".NAN"]

/-- A text that, written plainly, is not read as a string or looks like a number. -/
def isAmbiguous (text : String) : Bool :=
  nulls.contains text || booleans.contains text || specials.contains text ||
    isBasedInteger text.toList || isZeroPadded text.toList ||
    match withoutPlus? text.toList with
    | some body => isDecimal body
    | none => false

end LibraryScout.Yaml.Plain
