import LibraryScout.Text.Lines

/-!
Contract: the written form of character tables.

A table is a list of lines; a line holds rows with blanks between them, and a row holds
hexadecimal numbers with points between them.
-/

namespace LibraryScout.Unicode

/-- The value of a hexadecimal digit with a capital letter. -/
def hexDigit (digit : Char) : Nat :=
  if digit.isDigit then digit.toNat - '0'.toNat else digit.toNat - 'A'.toNat + 10

/-- The number that hexadecimal digits stand for. -/
def hexNumber (digits : List Char) : Nat :=
  digits.foldl (fun value digit => value * 16 + hexDigit digit) 0

/-- The rows of a table. -/
def rows (lines : List String) : List (List Nat) :=
  lines.flatMap fun line =>
    (Text.cut ' ' line.toList).map fun row => (Text.cut '.' row).map hexNumber

/-- Rows that are ranges, as pairs of their ends. -/
def ranges (lines : List String) : List (Nat × Nat) :=
  (rows lines).filterMap fun row =>
    match row with
    | [first, last] => some (first, last)
    | _ => none

/-- Rows that give ranges a number, with that number last. -/
def classes (lines : List String) : List (Nat × Nat × Nat) :=
  (rows lines).filterMap fun row =>
    match row with
    | [first, last, number] => some (first, last, number)
    | _ => none

/-- The number that a table gives to a character. -/
def classOf? (table : List (Nat × Nat × Nat)) (character : Char) : Option Nat :=
  (table.find? fun (first, last, _) => first ≤ character.toNat && character.toNat ≤ last).map
    fun (_, _, number) => number

end LibraryScout.Unicode
