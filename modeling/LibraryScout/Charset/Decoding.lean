import LibraryScout.Charset.Labels
import LibraryScout.Charset.Tables
import LibraryScout.Charset.Utf16
import LibraryScout.Text.Lines

/-!
Contract: the text of bytes in a character set that goes by a name.

A byte order mark decides over the name, and an unknown name stands for UTF-8. Of the character
sets in which some characters take several bytes, only those of Unicode are known; in the others
ASCII is read and every other byte gives a replacement character.
-/

namespace LibraryScout.Charset

inductive Encoding where
  | utf8
  | utf16 (bigEndian : Bool)
  | singleByte (table : List Nat)
  /-- Bytes from 128 on are characters for private use. -/
  | privateUse
  /-- Any bytes are one replacement character. -/
  | unreadable
  /-- ASCII is all that is read. -/
  | asciiOnly

namespace Encoding

/-- The encoding of a character set. -/
def ofCharacterSet (name : String) : Encoding :=
  match name with
  | "utf-8" => utf8
  | "utf-16le" => utf16 false
  | "utf-16be" => utf16 true
  | "x-user-defined" => privateUse
  | "replacement" => unreadable
  | _ =>
      match tables.lookup name with
      | some table => singleByte (Unicode.rows table).flatten
      | none => asciiOnly

def isTrimmed (character : Char) : Bool :=
  character = ' ' || character = '\t' || character = '\n' || character = '\r' ||
    character = '\x0c'

/-- The encoding that a name stands for, case and white space around it aside. -/
def ofLabel? (label : String) : Option Encoding :=
  let trimmed := ((label.toList.dropWhile isTrimmed).reverse.dropWhile isTrimmed).reverse
  let written := trimmed.map Char.toLower
  (labelRows.find? fun (_, names) => (Text.cut ' ' names.toList).contains written).map
    fun (name, _) => ofCharacterSet name

/-- The text of bytes, byte by byte. -/
def decodeBytes (character : Nat → Char) (bytes : List UInt8) : List Char :=
  bytes.map fun byte => if byte < 128 then Char.ofNat byte.toNat else character (byte.toNat - 128)

def decode (encoding : Encoding) (bytes : List UInt8) : List Char :=
  match encoding with
  | utf8 => decodeUtf8 bytes
  | utf16 bigEndian => decodeUtf16 bigEndian bytes
  | singleByte table =>
      decodeBytes (fun index =>
        match table[index]? with
        | some 0 => replacement
        | some code => Char.ofNat code
        | none => replacement) bytes
  | privateUse => decodeBytes (fun index => Char.ofNat (0xF780 + index)) bytes
  | unreadable => if bytes = [] then [] else [replacement]
  | asciiOnly => decodeBytes (fun _ => replacement) bytes

end Encoding

/-- The text of bytes; a byte order mark is no part of it. -/
def decode (encoding : Encoding) (bytes : List UInt8) : String :=
  String.ofList (match bytes with
    | 0xEF :: 0xBB :: 0xBF :: rest => decodeUtf8 rest
    | 0xFF :: 0xFE :: rest => decodeUtf16 false rest
    | 0xFE :: 0xFF :: rest => decodeUtf16 true rest
    | _ => encoding.decode bytes)

end LibraryScout.Charset
