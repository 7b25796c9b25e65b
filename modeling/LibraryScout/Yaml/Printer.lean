import LibraryScout.Json.Value
import LibraryScout.Yaml.Scalar

/-!
Contract: the YAML text of a value, in block form.

Owns:
- the pen, which knows its column and whether anything but indentation stands on its line;
- strings in each style;
- sequences and mappings in block form, one item or member a line; empty ones are closed at once.

Sequences inside a mapping are not indented further than its keys. A key that is long or spans
lines stands behind a question mark.
-/

namespace LibraryScout.Yaml

/-- The state of writing. Lines are never folded, so no width is kept. -/
structure Pen where
  /-- What has been written, in reverse. -/
  written : List Char
  column : Nat
  /-- White space or a line start was written last. -/
  afterBlank : Bool
  /-- Nothing but indentation and marks of nesting stands on the line. -/
  indenting : Bool

namespace Pen

def empty : Pen :=
  ⟨[], 0, true, true⟩

/-- Writes one character within a line. -/
def put (pen : Pen) (character : Char) : Pen :=
  { pen with written := character :: pen.written, column := pen.column + 1 }

def putAll (pen : Pen) (text : List Char) : Pen :=
  text.foldl put pen

/-- Ends the line with a character of its own. -/
def breakWith (pen : Pen) (character : Char) : Pen :=
  { pen with written := character :: pen.written, column := 0 }

/-- Goes to an indentation, on a new line unless the pen is still before it. -/
def indentTo (pen : Pen) (indent : Nat) : Pen :=
  let fresh :=
    if !pen.indenting || pen.column > indent || (pen.column = indent && !pen.afterBlank) then
      pen.breakWith '\n'
    else
      pen
  let padded := fresh.putAll (List.replicate (indent - fresh.column) ' ')
  { padded with afterBlank := true, indenting := true }

/-- Writes a mark. -/
def mark (pen : Pen) (text : List Char) (spaced blank nesting : Bool) : Pen :=
  let start := if spaced && !pen.afterBlank then pen.put ' ' else pen
  let done := start.putAll text
  { done with afterBlank := blank, indenting := start.indenting && nesting }

/-- Ends a scalar. -/
def finish (pen : Pen) : Pen :=
  { pen with afterBlank := false, indenting := false }

/-! ## Scalars -/

def plain (pen : Pen) (text : List Char) : Pen :=
  let start := if pen.afterBlank || text.isEmpty then pen else pen.put ' '
  (start.putAll text).finish

/-- The inside of single quotes; `broken` says that a line break was written last. -/
def singleBody (pen : Pen) (indent : Nat) (broken : Bool) : List Char → Pen
  | [] => if broken then pen.indentTo indent else pen
  | character :: rest =>
      if character = ' ' then
        (pen.put ' ').singleBody indent broken rest
      else if isBreak character then
        let start := if !broken && character = '\n' then pen.breakWith '\n' else pen
        { start.breakWith character with indenting := true }.singleBody indent true rest
      else
        let start := if broken then pen.indentTo indent else pen
        let doubled := if character = '\'' then start.put '\'' else start
        { doubled.put character with indenting := false }.singleBody indent false rest

def singleQuoted (pen : Pen) (indent : Nat) (text : List Char) : Pen :=
  let opened := pen.mark ['\''] true false false
  ((opened.singleBody indent false text).mark ['\''] false false false).finish

/-- The digits of a number in base sixteen, capital letters, at least so many of them. -/
def hexDigits (width number : Nat) : List Char :=
  let digits := (Nat.toDigits 16 number).map Char.toUpper
  List.replicate (width - digits.length) '0' ++ digits

/-- One character inside double quotes. -/
def escaped (character : Char) : List Char :=
  let code := character.toNat
  if isPrintable character && !isBreak character && character ≠ '"' && character ≠ '\\' then
    [character]
  else
    '\\' ::
      match code with
      | 0x00 => ['0']
      | 0x07 => ['a']
      | 0x08 => ['b']
      | 0x09 => ['t']
      | 0x0A => ['n']
      | 0x0B => ['v']
      | 0x0C => ['f']
      | 0x0D => ['r']
      | 0x1B => ['e']
      | 0x22 => ['"']
      | 0x5C => ['\\']
      | 0x85 => ['N']
      | 0xA0 => ['_']
      | 0x2028 => ['L']
      | 0x2029 => ['P']
      | _ =>
          if code ≤ 0xFF then 'x' :: hexDigits 2 code
          else if code ≤ 0xFFFF then 'u' :: hexDigits 4 code
          else 'U' :: hexDigits 8 code

def doubleQuoted (pen : Pen) (text : List Char) : Pen :=
  let opened := pen.mark ['"'] true false false
  ((opened.putAll (text.flatMap escaped)).mark ['"'] false false false).finish

/-- What the header of a literal block says about the line breaks at its end. -/
def chomping (text : List Char) : List Char :=
  match text.reverse with
  | [] => ['-']
  | [last] => if isBreak last then ['+'] else ['-']
  | last :: before :: _ =>
      if !isBreak last then ['-'] else if isBreak before then ['+'] else []

/-- What the header of a literal block says about its indentation. -/
def indentation (text : List Char) : List Char :=
  match text with
  | [] => []
  | first :: _ => if first = ' ' || isBreak first then ['2'] else []

/-- The lines of a literal block; `broken` says that a line break was written last. -/
def literalBody (pen : Pen) (indent : Nat) (broken : Bool) : List Char → Pen
  | [] => pen
  | character :: rest =>
      if isBreak character then
        { pen.breakWith character with indenting := true }.literalBody indent true rest
      else
        let start := if broken then pen.indentTo indent else pen
        { start.put character with indenting := false }.literalBody indent false rest

def literal (pen : Pen) (indent : Nat) (text : List Char) : Pen :=
  let header := pen.mark ('|' :: indentation text ++ chomping text) true false false
  { header.breakWith '\n' with afterBlank := true, indenting := true }.literalBody indent true text

/-- A string in the style that suits it. -/
def string (pen : Pen) (indent : Nat) (asKey : Bool) (text : String) : Pen :=
  match styleOf text asKey with
  | .plain => pen.plain text.toList
  | .singleQuoted => pen.singleQuoted indent text.toList
  | .doubleQuoted => pen.doubleQuoted text.toList
  | .literal => pen.literal indent text.toList

/-! ## Values -/

/-- Floating-point numbers have no sign in front of a positive exponent. -/
def floatLayout : LibraryScout.Number.FloatLayout :=
  ⟨false⟩

def numberText : Json.Number → String
  | .integer value => toString value
  | .float value => floatLayout.text value

mutual

/-- A value inside a block at an indentation; `inMapping` says that the block is a mapping. -/
def value (pen : Pen) (indent : Nat) (inMapping : Bool) : Json → Pen
  | .null => pen.plain "null".toList
  | .bool true => pen.plain "true".toList
  | .bool false => pen.plain "false".toList
  | .number number => pen.plain (numberText number).toList
  | .string text => pen.string (indent + 2) false text
  | .array [] => (pen.mark ['['] true true false).mark [']'] false false false
  | .array (item :: others) =>
      let inner := if inMapping && !pen.indenting then indent else indent + 2
      pen.items inner (item :: others)
  | .object [] => (pen.mark ['\x7b'] true true false).mark ['\x7d'] false false false
  | .object (first :: others) => pen.members (indent + 2) (first :: others)

/-- The items of a sequence. -/
def items (pen : Pen) (indent : Nat) : List Json → Pen
  | [] => pen
  | item :: others =>
      let marked := (pen.indentTo indent).mark ['-'] true false true
      (marked.value indent false item).items indent others

/-- The members of a mapping. -/
def members (pen : Pen) (indent : Nat) : List (String × Json) → Pen
  | [] => pen
  | (name, held) :: others =>
      let start := pen.indentTo indent
      let keyed :=
        if isSimpleKey name then
          (start.string (indent + 2) true name).mark [':'] false false false
        else
          let asked := (start.mark ['?'] true false true).string (indent + 2) false name
          (asked.indentTo indent).mark [':'] true false true
      (keyed.value indent true held).members indent others

end

/-- A value as a document of its own. -/
def document (held : Json) : Pen :=
  let body :=
    match held with
    | .array (item :: others) => empty.items 0 (item :: others)
    | .object (first :: others) => empty.members 0 (first :: others)
    | other => empty.value 0 false other
  body.indentTo 0

end Pen

/-- The YAML text of a value. -/
def print (held : Json) : String :=
  String.ofList (Pen.document held).written.reverse

end LibraryScout.Yaml
