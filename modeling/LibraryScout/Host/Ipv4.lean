import LibraryScout.Text.Lines

/-!
Contract: IPv4 addresses as they stand in URLs.

An address has one to four numbers with dots between them, in decimal, octal after a zero or
hexadecimal after `0x`; the last number fills all the bytes that the others leave.
-/

namespace LibraryScout.Host.Ipv4

/-- The value of a digit in some base. -/
def digitValue? (base : Nat) (digit : Char) : Option Nat :=
  let value? :=
    if digit.isDigit then some (digit.toNat - '0'.toNat)
    else if 'a' ≤ digit ∧ digit ≤ 'f' then some (digit.toNat - 'a'.toNat + 10)
    else if 'A' ≤ digit ∧ digit ≤ 'F' then some (digit.toNat - 'A'.toNat + 10)
    else none
  value?.filter fun value => value < base

def inBase? (base : Nat) (digits : List Char) : Option Nat :=
  (digits.mapM (digitValue? base)).map fun values =>
    values.foldl (fun sum value => sum * base + value) 0

/-- The value of one number; a prefix without digits is zero. -/
def number? (part : List Char) : Option Nat :=
  match part with
  | [] => none
  | '0' :: 'x' :: digits => inBase? 16 digits
  | '0' :: 'X' :: digits => inBase? 16 digits
  | ['0'] => some 0
  | '0' :: digits => inBase? 8 digits
  | digits => inBase? 10 digits

/-- The parts between dots; an empty part at the end does not count. -/
def parts (host : List Char) : List (List Char) :=
  let pieces := Text.cut '.' host
  if pieces.getLast? = some [] then pieces.dropLast else pieces

/-- A host whose last part is a number can only be an address. -/
def endsInNumber (host : List Char) : Bool :=
  match (parts host).getLast? with
  | none => false
  | some last =>
      (last ≠ [] && last.all Char.isDigit) || (number? last).isSome

/-- The value of an address, which has 32 bits. -/
def value? (host : List Char) : Option Nat := do
  let pieces := parts host
  if 4 < pieces.length then
    none
  else
    let numbers ← pieces.mapM number?
    let last ← numbers.getLast?
    let others := numbers.dropLast
    if Nat.pow 256 (4 - others.length) ≤ last || others.any fun number => 255 < number then
      none
    else
      let leading := others.foldl (fun total number => total * 256 + number) 0
      return leading * Nat.pow 256 (4 - others.length) + last

/-- The text of an address. -/
def text (value : Nat) : String :=
  Text.joined "." ([3, 2, 1, 0].map fun place => toString (value / Nat.pow 256 place % 256))

end LibraryScout.Host.Ipv4
