/-!
Contract: percent encoding, the form in which URLs hold bytes that they cannot hold as they are.

Each part of a URL has its own set of characters that are encoded; characters beyond ASCII are
always encoded as the bytes of their UTF-8 form.
-/

namespace LibraryScout.Url.Percent

def hexDigit (value : Nat) : Char :=
  if value < 10 then Char.ofNat ('0'.toNat + value) else Char.ofNat ('A'.toNat + (value - 10))

def encodeByte (byte : UInt8) : List Char :=
  ['%', hexDigit (byte.toNat / 16), hexDigit (byte.toNat % 16)]

/-- Controls and all beyond ASCII, which no part of a URL holds as they are. -/
def isControl (character : Char) : Bool :=
  character.toNat < 32 || 127 ≤ character.toNat

/-- Encodes controls, characters beyond ASCII and the given ones. -/
def encode (encoded : List Char) (text : List Char) : List Char :=
  text.flatMap fun character =>
    if isControl character || encoded.contains character then
      (String.utf8EncodeChar character).flatMap encodeByte
    else
      [character]

def inFragment : List Char :=
  [' ', '"', '<', '>', '\x60']

def inPath : List Char :=
  inFragment ++ ['#', '?', '\x7b', '\x7d']

def inUserInfo : List Char :=
  inPath ++ ['/', ':', ';', '=', '@', '[', '\\', ']', '^', '|']

def inQuery : List Char :=
  [' ', '"', '#', '<', '>']

/-- In URLs of the web an apostrophe is encoded too. -/
def inWebQuery : List Char :=
  inQuery ++ ['\'']

def hexValue? (digit : Char) : Option Nat :=
  if digit.isDigit then some (digit.toNat - '0'.toNat)
  else if 'a' ≤ digit ∧ digit ≤ 'f' then some (digit.toNat - 'a'.toNat + 10)
  else if 'A' ≤ digit ∧ digit ≤ 'F' then some (digit.toNat - 'A'.toNat + 10)
  else none

/-- The bytes of a text; a percent sign with two hexadecimal digits is one byte. -/
def decode (text : List Char) : List UInt8 :=
  match text with
  | [] => []
  | '%' :: high :: low :: rest =>
      match hexValue? high, hexValue? low with
      | some first, some second => (first * 16 + second).toUInt8 :: decode rest
      | _, _ => 37 :: decode (high :: low :: rest)
  | character :: rest => String.utf8EncodeChar character ++ decode rest
termination_by text.length

/-- Encoding of form fields: letters, digits and four marks stand for themselves, a blank is a
plus sign. -/
def encodeFormField (text : String) : String :=
  String.ofList (text.toList.flatMap fun character =>
    if character.isAlphanum || "*-._".toList.contains character then [character]
    else if character = ' ' then ['+']
    else (String.utf8EncodeChar character).flatMap encodeByte)

end LibraryScout.Url.Percent
