import LibraryScout.Json.Fault
import LibraryScout.Json.Value

/-!
Contract: reading JSON values from text.

Owns:
- white space, words, numbers and string literals;
- the bodies of arrays and objects, for items of any type;
- `Json.value`, which reads any value nested at most `depthLimit` deep, and `Json.parse`.

A number whose digits exceed 64 bits or which has a fraction or an exponent is a floating-point
number: its leading digits as a whole number, multiplied or divided once by a power of ten.
-/

namespace LibraryScout.Json

open LibraryScout.Number (Binary64)

/-- White space between the parts of a text. -/
def isSpace (character : Char) : Bool :=
  character = ' ' || character = '\n' || character = '\t' || character = '\r'

def skipSpace (text : List Char) : List Char :=
  text.dropWhile isSpace

/-- Reads the rest of a word whose first letter has been read. -/
def word : (expected : List Char) → List Char → Except Fault (List Char)
  | [], text => .ok text
  | _ :: _, [] => stop .endInValue []
  | letter :: letters, character :: rest =>
      if character = letter then word letters rest else stopAt .expectedWord (character :: rest)

/-! ## Numbers -/

/-- The largest whole number that is kept exactly. -/
def largestWhole : Nat :=
  Nat.pow 2 64 - 1

def isDigit (character : Char) : Bool :=
  '0' ≤ character && character ≤ '9'

def digitValue (character : Char) : Nat :=
  character.toNat - '0'.toNat

def startsDigit : List Char → Bool
  | [] => false
  | character :: _ => isDigit character

/-- Adds digits to a whole number while it stays within the exact range: the number, how many
digits were added, and what is left. -/
def moreDigits (significand : Nat) (count : Nat) : List Char → Nat × Nat × List Char
  | [] => (significand, count, [])
  | character :: rest =>
      let next := significand * 10 + digitValue character
      if isDigit character && next ≤ largestWhole then
        moreDigits next (count + 1) rest
      else
        (significand, count, character :: rest)

/-- The floating-point number nearest to a power of ten. -/
def powerOfTen (exponent : Nat) : Binary64 :=
  (Binary64.ofNat? (Nat.pow 10 exponent)).getD .zero

/-- A number divided by a power of ten, in steps of at most 308 digits. -/
def dividedByPower (number : Binary64) (exponent : Nat) : Binary64 :=
  if exponent ≤ 308 then
    (number.dividedBy? (powerOfTen exponent)).getD .zero
  else if number.isZero then
    number
  else
    dividedByPower ((number.dividedBy? (powerOfTen 308)).getD .zero) (exponent - 308)
termination_by exponent

/-- A significand scaled by a power of ten, unless the result is too large. -/
def scaled? (significand : Nat) (exponent : Int) : Option Binary64 :=
  let number := (Binary64.ofNat? significand).getD .zero
  if exponent < 0 then
    some (dividedByPower number exponent.natAbs)
  else if exponent ≤ 308 then
    number.times? (powerOfTen exponent.toNat)
  else if number.isZero then
    some number
  else
    none

/-- A scaled significand with its sign. -/
def scaledNumber (negative : Bool) (significand : Nat) (exponent : Int) : Reader Number :=
  fun rest =>
    match scaled? significand exponent with
    | some value => .ok (.float { value with negative := negative }, rest)
    | none => stop .numberOutOfRange rest

/-- The largest exponent that is read. -/
def largestExponent : Nat :=
  Nat.pow 2 31 - 1

/-- The digits of an exponent; nothing is added once it would exceed the largest one. -/
def exponentDigits (exponent : Nat) : List Char → Nat × Bool × List Char
  | [] => (exponent, false, [])
  | character :: rest =>
      if isDigit character then
        let next := exponent * 10 + digitValue character
        if next ≤ largestExponent then exponentDigits next rest else (exponent, true, rest)
      else
        (exponent, false, character :: rest)

/-- Reads what follows the letter of an exponent. -/
def exponentPart (negative : Bool) (significand : Nat) (start : Int) : Reader Number :=
  fun text =>
    let (positive, digits) :=
      match text with
      | '+' :: rest => (true, rest)
      | '-' :: rest => (false, rest)
      | _ => (true, text)
    match digits with
    | [] => stop .endInValue []
    | character :: rest =>
        if isDigit character then
          let (exponent, tooLarge, after) := exponentDigits (digitValue character) rest
          if tooLarge then
            if significand ≠ 0 && positive then
              stop .numberOutOfRange after
            else
              .ok (.float { Binary64.zero with negative := negative }, after.dropWhile isDigit)
          else if positive then
            scaledNumber negative significand (start + exponent) after
          else
            scaledNumber negative significand (start - exponent) after
        else
          stopAt .invalidNumber (character :: rest)

/-- Ends a number whose digits are read, with its exponent if it has one. -/
def exponentOrEnd (negative : Bool) (significand : Nat) (exponent : Int) : Reader Number
  | 'e' :: rest => exponentPart negative significand exponent rest
  | 'E' :: rest => exponentPart negative significand exponent rest
  | text => scaledNumber negative significand exponent text

/-- Reads what follows the point of a number. -/
def fractionPart (negative : Bool) (significand : Nat) (start : Int) : Reader Number :=
  fun text =>
    let (digits, count, rest) := moreDigits significand 0 text
    if startsDigit rest then
      exponentOrEnd negative digits (start - count) (rest.dropWhile isDigit)
    else if count = 0 then
      match rest with
      | [] => stop .endInValue []
      | _ :: _ => stopAt .invalidNumber rest
    else
      exponentOrEnd negative digits (start - count) rest

/-- Ends a number whose whole digits are read. -/
def wholeEnd (negative : Bool) (significand : Nat) : Reader Number
  | '.' :: rest => fractionPart negative significand 0 rest
  | 'e' :: rest => exponentPart negative significand 0 rest
  | 'E' :: rest => exponentPart negative significand 0 rest
  | text =>
      if negative then
        if significand = 0 || significand > Nat.pow 2 63 then
          let number := (Binary64.ofNat? significand).getD .zero
          .ok (.float { number with negative := true }, text)
        else
          .ok (.integer (-(significand : Int)), text)
      else
        .ok (.integer significand, text)

/-- Ends a number whose whole digits exceed the exact range. -/
def longEnd (negative : Bool) (significand : Nat) (exponent : Int) : Reader Number
  | '.' :: rest => fractionPart negative significand exponent rest
  | text => exponentOrEnd negative significand exponent text

/-- Reads the digits of a number after its sign. -/
def unsignedNumber (negative : Bool) : Reader Number
  | [] => stop .endInValue []
  | '0' :: rest =>
      if startsDigit rest then stopAt .invalidNumber rest else wholeEnd negative 0 rest
  | character :: rest =>
      if isDigit character then
        let (significand, _, after) := moreDigits (digitValue character) 0 rest
        if startsDigit after then
          let left := after.dropWhile isDigit
          longEnd negative significand (after.length - left.length : Nat) left
        else
          wholeEnd negative significand after
      else
        stopAt .invalidNumber (character :: rest)

/-- Reads a number that starts with a digit or a minus sign. -/
def numberLiteral : Reader Number
  | '-' :: rest => unsignedNumber true rest
  | text => unsignedNumber false text

/-! ## String literals -/

/-- The value of a digit in base sixteen. -/
def hexValue? (character : Char) : Option Nat :=
  if isDigit character then some (digitValue character)
  else if 'a' ≤ character && character ≤ 'f' then some (character.toNat - 'a'.toNat + 10)
  else if 'A' ≤ character && character ≤ 'F' then some (character.toNat - 'A'.toNat + 10)
  else none

/-- The number of bytes of a text. -/
def byteCount (text : List Char) : Nat :=
  text.foldl (fun total character => total + character.utf8Size) 0

/-- The number that four digits in base sixteen at the start of a text write. -/
def fourHex : List Char → Except Fault Nat
  | first :: second :: third :: fourth :: rest =>
      match hexValue? first, hexValue? second, hexValue? third, hexValue? fourth with
      | some a, some b, some c, some d => .ok (((a * 16 + b) * 16 + c) * 16 + d)
      | _, _, _, _ =>
          .error ⟨.invalidEscape, some ⟨first :: second :: third :: fourth :: rest, 4⟩⟩
  | text =>
      if 4 ≤ byteCount text then .error ⟨.invalidEscape, some ⟨text, 4⟩⟩ else stop .endInString []

/-- The character that an escape by number stands for, and how many characters of the text write
it. The text starts after the letter of the escape. -/
def numberedEscape (text : List Char) : Except Fault (Char × Nat) :=
  match fourHex text with
  | .error fault => .error fault
  | .ok unit =>
      if 0xDC00 ≤ unit && unit ≤ 0xDFFF then
        stop .loneSurrogate (text.drop 4)
      else if unit < 0xD800 || 0xDBFF < unit then
        .ok (Char.ofNat unit, 4)
      else
        match text.drop 4 with
        | [] => stop .endInString []
        | '\\' :: [] => stop .endInString []
        | '\\' :: 'u' :: rest =>
            match fourHex rest with
            | .error fault => .error fault
            | .ok second =>
                if second < 0xDC00 || 0xDFFF < second then
                  stop .loneSurrogate (rest.drop 4)
                else
                  .ok (Char.ofNat ((unit - 0xD800) * 0x400 + (second - 0xDC00) + 0x10000), 10)
        | '\\' :: other => stopAt .unfinishedSurrogatePair other
        | other => stopAt .unfinishedSurrogatePair other

/-- The character that an escape stands for, and how many characters after the backslash write
it. -/
def escape : List Char → Except Fault (Char × Nat)
  | [] => stop .endInString []
  | '"' :: _ => .ok ('"', 1)
  | '\\' :: _ => .ok ('\\', 1)
  | '/' :: _ => .ok ('/', 1)
  | 'b' :: _ => .ok ('\x08', 1)
  | 'f' :: _ => .ok ('\x0c', 1)
  | 'n' :: _ => .ok ('\n', 1)
  | 'r' :: _ => .ok ('\r', 1)
  | 't' :: _ => .ok ('\t', 1)
  | 'u' :: rest => (numberedEscape rest).map fun (character, length) => (character, length + 1)
  | text => stopAt .invalidEscape text

/-- Reads a string literal after its opening quote; `done` holds the characters read so far in
reverse. -/
def literalFrom (done : List Char) (text : List Char) : Except Fault (String × List Char) :=
  match text with
  | [] => stop .endInString []
  | '"' :: rest => .ok (String.ofList done.reverse, rest)
  | '\\' :: rest =>
      match escape rest with
      | .error fault => .error fault
      | .ok (character, length) => literalFrom (character :: done) (rest.drop length)
  | character :: rest =>
      if character.toNat < 0x20 then stopAt .controlCharacter (character :: rest)
      else literalFrom (character :: done) rest
termination_by text.length
decreasing_by
  all_goals simp only [List.length_cons, List.length_drop]; omega

/-- Reads a string literal after its opening quote. -/
def stringLiteral : Reader String :=
  literalFrom []

/-! ## Bodies of arrays and objects -/

/-- Before the next item of a list: what is left if there is one, nothing at the end. -/
def nextItem (isFirst : Bool) (text : List Char) : Except Fault (Option (List Char)) :=
  match skipSpace text with
  | [] => stopAt .endInList []
  | ']' :: _ => .ok none
  | character :: rest =>
      if isFirst then
        .ok (some (character :: rest))
      else if character = ',' then
        match skipSpace rest with
        | [] => stopAt .endInValue []
        | ']' :: after => stopAt .trailingComma (']' :: after)
        | after => .ok (some after)
      else
        stopAt .expectedListEnd (character :: rest)

/-- Reads the name of a member and the colon after it. -/
def memberName : Reader String
  | '"' :: rest => stringLiteral rest
  | text => stopAt .nameNotString text

/-- The colon between a name and its value. -/
def colon (text : List Char) : Except Fault (List Char) :=
  match skipSpace text with
  | [] => stopAt .endInObject []
  | ':' :: rest => .ok rest
  | rest => stopAt .expectedColon rest

/-- Before the next member of an object: the name and what is left, nothing at the end. -/
def nextMember (isFirst : Bool) (text : List Char) :
    Except Fault (Option (String × List Char)) :=
  match skipSpace text with
  | [] => stopAt .endInObject []
  | '\x7d' :: _ => .ok none
  | character :: rest =>
      if isFirst then
        (memberName (character :: rest)).map some
      else if character = ',' then
        match skipSpace rest with
        | [] => stopAt .endInValue []
        | '\x7d' :: after => stopAt .trailingComma ('\x7d' :: after)
        | after => (memberName after).map some
      else
        stopAt .expectedObjectEnd (character :: rest)

/-- What closes a list. -/
def closeList (text : List Char) : Except Fault (List Char) :=
  match skipSpace text with
  | [] => stopAt .endInList []
  | ']' :: rest => .ok rest
  | ',' :: rest =>
      match skipSpace rest with
      | ']' :: after => stopAt .trailingComma (']' :: after)
      | after => stopAt .trailingCharacters after
  | rest => stopAt .trailingCharacters rest

/-- What closes an object. -/
def closeObject (text : List Char) : Except Fault (List Char) :=
  match skipSpace text with
  | [] => stopAt .endInObject []
  | '\x7d' :: rest => .ok rest
  | ',' :: rest => stopAt .trailingComma (',' :: rest)
  | rest => stopAt .trailingCharacters rest

/-- Reads items up to the bracket that closes their list. The number of steps bounds the number of
items; the length of the text is always enough. -/
def items {α : Type} (item : Reader α) (isFirst : Bool) (done : List α) :
    (steps : Nat) → Reader (List α)
  | 0, text => stopAt .endInList text
  | steps + 1, text =>
      match nextItem isFirst text with
      | .error fault => .error fault
      | .ok none => (closeList text).map fun rest => (done.reverse, rest)
      | .ok (some start) =>
          match item start with
          | .error fault => .error fault
          | .ok (value, rest) => items item false (value :: done) steps rest

/-- Reads the items of a list after its opening bracket. -/
def listBody {α : Type} (item : Reader α) : Reader (List α) :=
  fun text => items item true [] (text.length + 1) text

/-- Reads members up to the brace that closes their object. -/
def members {α : Type} (value : Reader α) (isFirst : Bool) (done : List (String × α)) :
    (steps : Nat) → Reader (List (String × α))
  | 0, text => stopAt .endInObject text
  | steps + 1, text =>
      match nextMember isFirst text with
      | .error fault => .error fault
      | .ok none => (closeObject text).map fun rest => (done.reverse, rest)
      | .ok (some (name, afterName)) =>
          match colon afterName with
          | .error fault => .error fault
          | .ok start =>
              match value start with
              | .error fault => .error fault
              | .ok (held, rest) => members value false ((name, held) :: done) steps rest

/-- Reads the members of an object after its opening brace, repetitions included. -/
def objectBody {α : Type} (value : Reader α) : Reader (List (String × α)) :=
  fun text => members value true [] (text.length + 1) text

/-! ## Values -/

/-- How many arrays and objects may be open at once. -/
def depthLimit : Nat :=
  127

/-- A value that is neither an array nor an object. -/
def scalar : Reader Json
  | [] => stopAt .endInValue []
  | 'n' :: rest => (word ['u', 'l', 'l'] rest).map fun after => (.null, after)
  | 't' :: rest => (word ['r', 'u', 'e'] rest).map fun after => (.bool true, after)
  | 'f' :: rest => (word ['a', 'l', 's', 'e'] rest).map fun after => (.bool false, after)
  | '"' :: rest => (stringLiteral rest).map fun (text, after) => (.string text, after)
  | character :: rest =>
      if character = '-' || isDigit character then
        (numberLiteral (character :: rest)).map fun (value, after) => (.number value, after)
      else
        stopAt .expectedValue (character :: rest)

/-- Reads a value in which at most `depth` arrays and objects are open at once. -/
def value (depth : Nat) : Reader Json :=
  fun text =>
    match skipSpace text with
    | '[' :: rest =>
        match depth with
        | 0 => stopAt .tooDeep ('[' :: rest)
        | inner + 1 => (listBody (value inner) rest).map fun (held, after) => (.array held, after)
    | '\x7b' :: rest =>
        match depth with
        | 0 => stopAt .tooDeep ('\x7b' :: rest)
        | inner + 1 =>
            (objectBody (value inner) rest).map fun (pairs, after) =>
              (.object (Members.ofPairs pairs), after)
    | start => scalar start

/-- The end of a text, white space aside. -/
def ended (text : List Char) : Except Fault Unit :=
  match skipSpace text with
  | [] => .ok ()
  | rest => stopAt .trailingCharacters rest

/-- Reads a whole text. -/
def whole {α : Type} (read : Reader α) (text : String) : Except Fault α :=
  match read text.toList with
  | .error fault => .error fault
  | .ok (value, rest) => (ended rest).map fun _ => value

/-- The value that a text writes. -/
def parse (text : String) : Except Fault Json :=
  whole (value depthLimit) text

end LibraryScout.Json
