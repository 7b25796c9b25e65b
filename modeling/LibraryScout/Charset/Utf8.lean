/-!
Contract: UTF-8 with faults.

Each longest run of bytes that starts a character but does not complete it, and each byte that
starts none, is read as one replacement character.
-/

namespace LibraryScout.Charset

/-- What stands for bytes that are no character. -/
def replacement : Char :=
  '\uFFFD'

namespace Utf8

/-- A character of which some bytes are still to come: the value so far, the number of bytes, and
the range in which the next byte lies. -/
structure Open where
  value : Nat
  missing : Nat
  low : Nat
  high : Nat

/-- What a byte starts. -/
inductive Start where
  | character (character : Char)
  | opened (opened : Open)
  | nothing

def start (byte : Nat) : Start :=
  if byte < 0x80 then .character (Char.ofNat byte)
  else if 0xC2 ≤ byte ∧ byte ≤ 0xDF then .opened ⟨byte - 0xC0, 1, 0x80, 0xBF⟩
  else if byte = 0xE0 then .opened ⟨0, 2, 0xA0, 0xBF⟩
  else if byte = 0xED then .opened ⟨0xD, 2, 0x80, 0x9F⟩
  else if 0xE1 ≤ byte ∧ byte ≤ 0xEF then .opened ⟨byte - 0xE0, 2, 0x80, 0xBF⟩
  else if byte = 0xF0 then .opened ⟨0, 3, 0x90, 0xBF⟩
  else if 0xF1 ≤ byte ∧ byte ≤ 0xF3 then .opened ⟨byte - 0xF0, 3, 0x80, 0xBF⟩
  else if byte = 0xF4 then .opened ⟨4, 3, 0x80, 0x8F⟩
  else .nothing

/-- The characters that a byte at the start of one gives, and what it leaves open. -/
def begin (byte : Nat) : List Char × Option Open :=
  match start byte with
  | .character character => ([character], none)
  | .opened opened => ([], some opened)
  | .nothing => ([replacement], none)

/-- The characters that the next byte gives, and what it leaves open. -/
def next (open? : Option Open) (byte : Nat) : List Char × Option Open :=
  match open? with
  | none => begin byte
  | some opened =>
      if opened.low ≤ byte ∧ byte ≤ opened.high then
        let value := opened.value * 64 + (byte - 0x80)
        if opened.missing = 1 then ([Char.ofNat value], none)
        else ([], some ⟨value, opened.missing - 1, 0x80, 0xBF⟩)
      else
        let (given, left) := begin byte
        (replacement :: given, left)

def decodeFrom (open? : Option Open) : List UInt8 → List Char
  | [] => if open?.isSome then [replacement] else []
  | byte :: later =>
      let (given, left) := next open? byte.toNat
      given ++ decodeFrom left later

end Utf8

/-- The text of UTF-8 bytes. -/
def decodeUtf8 (bytes : List UInt8) : List Char :=
  Utf8.decodeFrom none bytes

end LibraryScout.Charset
