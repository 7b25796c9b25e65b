import LibraryScout.Charset.Utf8

/-!
Contract: UTF-16 with faults.

A surrogate without its partner is read as a replacement character, and so is a single byte at the
end.
-/

namespace LibraryScout.Charset

namespace Utf16

/-- The units of some bytes, and whether a byte is left over. -/
def units (bigEndian : Bool) : List UInt8 → List Nat × Bool
  | [] => ([], false)
  | [_] => ([], true)
  | first :: second :: later =>
      let unit := if bigEndian then first.toNat * 256 + second.toNat
        else second.toNat * 256 + first.toNat
      let (others, left) := units bigEndian later
      (unit :: others, left)

def isHigh (unit : Nat) : Bool :=
  0xD800 ≤ unit && unit ≤ 0xDBFF

def isLow (unit : Nat) : Bool :=
  0xDC00 ≤ unit && unit ≤ 0xDFFF

/-- The characters of units; `high?` is a high surrogate whose partner may follow. -/
def characters (high? : Option Nat) : List Nat → List Char
  | [] => if high?.isSome then [replacement] else []
  | unit :: later =>
      match high? with
      | some high =>
          if isLow unit then
            Char.ofNat (0x10000 + (high - 0xD800) * 0x400 + (unit - 0xDC00)) ::
              characters none later
          else if isHigh unit then replacement :: characters (some unit) later
          else replacement :: Char.ofNat unit :: characters none later
      | none =>
          if isHigh unit then characters (some unit) later
          else if isLow unit then replacement :: characters none later
          else Char.ofNat unit :: characters none later

end Utf16

/-- The text of UTF-16 bytes. -/
def decodeUtf16 (bigEndian : Bool) (bytes : List UInt8) : List Char :=
  let (units, left) := Utf16.units bigEndian bytes
  Utf16.characters none units ++ (if left then [replacement] else [])

end LibraryScout.Charset
