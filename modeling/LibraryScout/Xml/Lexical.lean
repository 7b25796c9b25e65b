import LibraryScout.Text.Blank
import LibraryScout.Text.Occurrences

/-!
Contract: the characters, names and references of XML documents.

Owns:
- the characters that a document may hold at all, and those of names;
- qualified names, a qualifier and a local name with a colon between them;
- character references and the five named references; others are unknown.
-/

namespace LibraryScout.Xml

/-- White space between the parts of a tag. -/
def isSpace (character : Char) : Bool :=
  character = ' ' || character = '\t' || character = '\n' || character = '\r'

def skipSpace (text : List Char) : List Char :=
  text.dropWhile isSpace

/-- Characters that a document may hold. -/
def isAllowed (character : Char) : Bool :=
  if character.toNat < 0x20 then
    character = '\t' || character = '\n' || character = '\r'
  else
    character.toNat ≠ 0xFFFE && character.toNat ≠ 0xFFFF

/-- Characters beyond ASCII that may start a name. -/
def nameStartRanges : List (Nat × Nat) :=
  [(0xC0, 0xD6), (0xD8, 0xF6), (0xF8, 0x2FF), (0x370, 0x37D), (0x37F, 0x1FFF), (0x200C, 0x200D),
   (0x2070, 0x218F), (0x2C00, 0x2FEF), (0x3001, 0xD7FF), (0xF900, 0xFDCF), (0xFDF0, 0xFFFD),
   (0x10000, 0xEFFFF)]

/-- Characters beyond ASCII that may stand in a name. -/
def nameRanges : List (Nat × Nat) :=
  [(0xB7, 0xB7), (0xC0, 0xD6), (0xD8, 0xF6), (0xF8, 0x37D), (0x37F, 0x1FFF), (0x200C, 0x200D),
   (0x203F, 0x2040), (0x2070, 0x218F), (0x2C00, 0x2FEF), (0x3001, 0xD7FF), (0xF900, 0xFDCF),
   (0xFDF0, 0xFFFD), (0x10000, 0xEFFFF)]

def isNameStart (character : Char) : Bool :=
  if character.toNat ≤ 0x80 then
    character.isAlpha || character = ':' || character = '_'
  else
    Text.inRanges nameStartRanges character

def isNameChar (character : Char) : Bool :=
  if character.toNat ≤ 0x80 then
    character.isAlphanum || character = ':' || character = '_' || character = '-' ||
      character = '.'
  else
    Text.inRanges nameRanges character

/-- A name at the start of a text. -/
def name? (text : List Char) : Option (List Char × List Char) :=
  match text with
  | [] => none
  | first :: _ =>
      if isNameStart first then some (text.takeWhile isNameChar, text.dropWhile isNameChar)
      else none

/-- A qualifier, empty where there is none, and a local name. -/
structure QName where
  qualifier : String
  name : String
deriving DecidableEq, Repr

/-- Part of a qualified name: name characters other than the colon. -/
def isPartChar (character : Char) : Bool :=
  isNameChar character && character ≠ ':'

def startsName (part : List Char) : Bool :=
  match part with
  | [] => false
  | first :: _ => isNameStart first

/-- A qualified name at the start of a text. A colon may also stand in front of the local name
without a qualifier. -/
def qualifiedName? (text : List Char) : Option (QName × List Char) :=
  let first := text.takeWhile isPartChar
  match text.dropWhile isPartChar with
  | ':' :: rest =>
      let second := rest.takeWhile isPartChar
      if (first.isEmpty || startsName first) && startsName second then
        some (⟨String.ofList first, String.ofList second⟩, rest.dropWhile isPartChar)
      else
        none
  | rest => if startsName first then some (⟨"", String.ofList first⟩, rest) else none

/-! ## References -/

/-- The value of a digit in a base up to sixteen. -/
def digit? (base : Nat) (character : Char) : Option Nat :=
  let value :=
    if '0' ≤ character && character ≤ '9' then character.toNat - '0'.toNat
    else if 'a' ≤ character && character ≤ 'f' then character.toNat - 'a'.toNat + 10
    else if 'A' ≤ character && character ≤ 'F' then character.toNat - 'A'.toNat + 10
    else base
  if value < base then some value else none

/-- The character with a number of at most 32 bits; a number that is no character's stands for
the replacement character. -/
def numbered? (base : Nat) (digits : List Char) : Option Char :=
  match digits with
  | [] => none
  | _ =>
      let number := digits.foldl (fun total digit => total * base + (digit? base digit).getD 0) 0
      if number < Nat.pow 2 32 then
        let character := if number.isValidChar then Char.ofNat number else '\ufffd'
        if isAllowed character then some character else none
      else
        none

/-- The named references. -/
def named? (name : List Char) : Option Char :=
  if name = "quot".toList then some '"'
  else if name = "amp".toList then some '&'
  else if name = "apos".toList then some '\''
  else if name = "lt".toList then some '<'
  else if name = "gt".toList then some '>'
  else none

/-- The character that a reference after an ampersand stands for. -/
def reference? (text : List Char) : Option (Char × List Char) :=
  let found :=
    match text with
    | '#' :: 'x' :: rest =>
        let isDigit (character : Char) : Bool := (digit? 16 character).isSome
        (numbered? 16 (rest.takeWhile isDigit)).map fun character =>
          (character, rest.dropWhile isDigit)
    | '#' :: rest =>
        let isDigit (character : Char) : Bool := (digit? 10 character).isSome
        (numbered? 10 (rest.takeWhile isDigit)).map fun character =>
          (character, rest.dropWhile isDigit)
    | _ =>
        match name? text with
        | none => none
        | some (name, rest) => (named? name).map fun character => (character, rest)
  match found with
  | some (character, ';' :: rest) =>
      if rest.length < text.length then some (character, rest) else none
  | _ => none

/-- Characters up to a closing mark, which is dropped; every one has to be allowed. -/
def upToMark? (mark : List Char) (text : List Char) : Option (List Char × List Char) :=
  match Text.after? mark text with
  | some rest => some ([], rest)
  | none =>
      match text with
      | [] => none
      | character :: rest =>
          if isAllowed character then
            (upToMark? mark rest).map fun (content, after) => (character :: content, after)
          else
            none

end LibraryScout.Xml
