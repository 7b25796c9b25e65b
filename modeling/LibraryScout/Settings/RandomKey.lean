/-!
Contract: user keys from random bytes.

A key is sixteen bytes in hexadecimal digits, in groups of eight, four, four, four and twelve. Two
of its digits say that the others are random, whatever the bytes were.
-/

namespace LibraryScout.Settings.RandomKey

/-- How many random bytes a key takes. -/
def byteCount : Nat :=
  16

def digits (byte : UInt8) : List Char :=
  [Nat.digitChar (byte.toNat / 16), Nat.digitChar (byte.toNat % 16)]

/-- The bytes with the digits that mark a random key. -/
def marked (bytes : List UInt8) : List UInt8 :=
  (bytes.modify 6 fun byte => 0x40 ||| (byte &&& 0x0F)).modify 8 fun byte =>
    0x80 ||| (byte &&& 0x3F)

/-- Digits in groups of the given sizes, with hyphens between the groups. -/
def grouped : List Nat → List Char → List Char
  | [], written => written
  | size :: sizes, written =>
      written.take size ++ '-' :: grouped sizes (written.drop size)

/-- The key that sixteen bytes make. -/
def ofBytes (bytes : List UInt8) : String :=
  String.ofList (grouped [8, 4, 4, 4] ((marked bytes).flatMap digits))

/-- The same marks for bytes that differ most. -/
example : ofBytes (List.replicate 16 0) = "00000000-0000-4000-8000-000000000000" := by
  decide +kernel
example : ofBytes (List.replicate 16 0xFF) = "ffffffff-ffff-4fff-bfff-ffffffffffff" := by
  decide +kernel

end LibraryScout.Settings.RandomKey
