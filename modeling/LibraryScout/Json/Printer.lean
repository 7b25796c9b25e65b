import LibraryScout.Json.Value
import LibraryScout.Number.Shortest

/-!
Contract: the text of JSON values.

Owns:
- string literals: quote, backslash and control characters are escaped, all else stands as it is;
- the compact form, without any white space;
- the indented form, two spaces a level, with empty arrays and objects closed at once.
-/

namespace LibraryScout.Json

/-- A floating-point number has the sign of a positive exponent written out. -/
def floatLayout : LibraryScout.Number.FloatLayout :=
  ⟨true⟩

/-- The text of a number. -/
def Number.text : Number → String
  | .integer value => toString value
  | .float value => floatLayout.text value

/-- One digit in base sixteen, small letters. -/
def hexDigit (value : Nat) : Char :=
  Nat.digitChar (value % 16)

/-- One character inside a string literal. -/
def escapeChar (character : Char) : List Char :=
  match character with
  | '"' => ['\\', '"']
  | '\\' => ['\\', '\\']
  | '\n' => ['\\', 'n']
  | '\r' => ['\\', 'r']
  | '\t' => ['\\', 't']
  | '\x08' => ['\\', 'b']
  | '\x0c' => ['\\', 'f']
  | _ =>
      if character.toNat < 0x20 then
        ['\\', 'u', '0', '0', hexDigit (character.toNat / 16), hexDigit character.toNat]
      else
        [character]

/-- A string literal. -/
def literal (text : String) : List Char :=
  '"' :: text.toList.flatMap escapeChar ++ ['"']

mutual

/-- A value without white space. -/
def compactChars : Json → List Char
  | null => "null".toList
  | bool true => "true".toList
  | bool false => "false".toList
  | number value => value.text.toList
  | string value => literal value
  | array items => '[' :: compactItems items ++ [']']
  | object members => '\x7b' :: compactMembers members ++ ['\x7d']

/-- Items with commas between them. -/
def compactItems : List Json → List Char
  | [] => []
  | [item] => compactChars item
  | item :: next :: others => compactChars item ++ ',' :: compactItems (next :: others)

/-- Members with commas between them. -/
def compactMembers : List (String × Json) → List Char
  | [] => []
  | [(name, value)] => literal name ++ ':' :: compactChars value
  | (name, value) :: next :: others =>
      literal name ++ ':' :: compactChars value ++ ',' :: compactMembers (next :: others)

end

/-- The start of a line at a depth of nesting. -/
def lineStart (depth : Nat) : List Char :=
  '\n' :: List.replicate (2 * depth) ' '

mutual

/-- A value with one item or member a line. -/
def indentedChars (depth : Nat) : Json → List Char
  | null => "null".toList
  | bool true => "true".toList
  | bool false => "false".toList
  | number value => value.text.toList
  | string value => literal value
  | array [] => ['[', ']']
  | array (item :: others) =>
      '[' :: indentedItems (depth + 1) (item :: others) ++ lineStart depth ++ [']']
  | object [] => ['\x7b', '\x7d']
  | object (first :: others) =>
      '\x7b' :: indentedMembers (depth + 1) (first :: others) ++ lineStart depth ++ ['\x7d']

def indentedItems (depth : Nat) : List Json → List Char
  | [] => []
  | [item] => lineStart depth ++ indentedChars depth item
  | item :: next :: others =>
      lineStart depth ++ indentedChars depth item ++ ',' :: indentedItems depth (next :: others)

def indentedMembers (depth : Nat) : List (String × Json) → List Char
  | [] => []
  | [(name, value)] =>
      lineStart depth ++ literal name ++ ':' :: ' ' :: indentedChars depth value
  | (name, value) :: next :: others =>
      lineStart depth ++ literal name ++ ':' :: ' ' :: indentedChars depth value ++
        ',' :: indentedMembers depth (next :: others)

end

/-- The text of a value without white space. -/
def compact (value : Json) : String :=
  String.ofList (compactChars value)

/-- The text of a value with one item or member a line. -/
def indented (value : Json) : String :=
  String.ofList (indentedChars 0 value)

end LibraryScout.Json
