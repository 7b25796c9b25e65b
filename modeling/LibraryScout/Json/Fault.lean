import LibraryScout.Number.Shortest
import LibraryScout.Text.Quoted
import LibraryScout.Text.Lines

/-!
Contract: why a text is not a JSON value of the wanted shape, and where.

Owns:
- the causes and their wording;
- `Place`, a point of the text given by what is left of it, and its line and column. Columns
  count bytes of the UTF-8 form, from one for the first; column zero is the point before it.
-/

namespace LibraryScout.Json

/-- What stands where something else is expected. -/
inductive Found where
  | null
  | boolean (value : Bool)
  | integer (value : Int)
  | float (text : String)
  | string (value : String)
  | sequence
  | map
  | unitVariant
deriving DecidableEq, Repr

namespace Found

def text : Found → String
  | null => "null"
  | boolean value => "boolean `" ++ (if value then "true" else "false") ++ "`"
  | integer value => "integer `" ++ toString value ++ "`"
  | float text => "floating point `" ++ text ++ "`"
  | string value => "string " ++ Text.Quoted.quote value
  | sequence => "sequence"
  | map => "map"
  | unitVariant => "unit variant"

end Found

/-- Why reading stopped. -/
inductive Cause where
  | endInList
  | endInObject
  | endInString
  | endInValue
  | expectedColon
  | expectedListEnd
  | expectedObjectEnd
  | expectedWord
  | expectedValue
  | invalidEscape
  | invalidNumber
  | numberOutOfRange
  | controlCharacter
  | nameNotString
  | loneSurrogate
  | unfinishedSurrogatePair
  | trailingComma
  | trailingCharacters
  | tooDeep
  | invalidType (found : Found) (expected : String)
  | invalidValue (found : Found) (expected : String)
  | invalidLength (length : Nat) (expected : String)
  | unknownVariant (name : String) (known : List String)
  | missingField (name : String)
  | duplicateField (name : String)
deriving DecidableEq, Repr

namespace Cause

/-- The choices of a variant as they are listed in a message. -/
def choices : List String → String
  | [] => "there are no variants"
  | [only] => "expected `" ++ only ++ "`"
  | [first, second] => "expected `" ++ first ++ "` or `" ++ second ++ "`"
  | many => "expected one of " ++ Text.joined ", " (many.map fun name => "`" ++ name ++ "`")

/-- The wording of a cause. -/
def message : Cause → String
  | endInList => "EOF while parsing a list"
  | endInObject => "EOF while parsing an object"
  | endInString => "EOF while parsing a string"
  | endInValue => "EOF while parsing a value"
  | expectedColon => "expected `:`"
  | expectedListEnd => "expected `,` or `]`"
  | expectedObjectEnd => "expected `,` or `\x7d`"
  | expectedWord => "expected ident"
  | expectedValue => "expected value"
  | invalidEscape => "invalid escape"
  | invalidNumber => "invalid number"
  | numberOutOfRange => "number out of range"
  | controlCharacter => "control character (\\u0000-\\u001F) found while parsing a string"
  | nameNotString => "key must be a string"
  | loneSurrogate => "lone leading surrogate in hex escape"
  | unfinishedSurrogatePair => "unexpected end of hex escape"
  | trailingComma => "trailing comma"
  | trailingCharacters => "trailing characters"
  | tooDeep => "recursion limit exceeded"
  | invalidType found expected => "invalid type: " ++ found.text ++ ", expected " ++ expected
  | invalidValue found expected => "invalid value: " ++ found.text ++ ", expected " ++ expected
  | invalidLength length expected =>
      "invalid length " ++ toString length ++ ", expected " ++ expected
  | unknownVariant name known => "unknown variant `" ++ name ++ "`, " ++ choices known
  | missingField name => "missing field `" ++ name ++ "`"
  | duplicateField name => "duplicate field `" ++ name ++ "`"

end Cause

/-- A point of a text: so many bytes after the start of what is left to read. -/
structure Place where
  rest : List Char
  ahead : Nat
deriving DecidableEq, Repr

/-- A line, counted from one, and the number of bytes before a point in it. -/
structure LineColumn where
  line : Nat
  column : Nat
deriving DecidableEq, Repr

namespace LineColumn

/-- The point after one character. -/
def after (point : LineColumn) (character : Char) : LineColumn :=
  if character = '\n' then ⟨point.line + 1, 0⟩
  else ⟨point.line, point.column + character.utf8Size⟩

/-- The point so many bytes further, or at the end of the text. -/
def advance (point : LineColumn) : (bytes : Nat) → List Char → LineColumn
  | 0, _ => point
  | _ + 1, [] => point
  | bytes + 1, character :: rest =>
      if character.utf8Size ≤ bytes + 1 then
        advance (point.after character) (bytes + 1 - character.utf8Size) rest
      else
        ⟨point.line, point.column + bytes + 1⟩

end LineColumn

/-- Line and column of a place in a text. -/
def Place.lineColumn (place : Place) (text : List Char) : LineColumn :=
  let consumed := text.take (text.length - place.rest.length)
  (consumed.foldl LineColumn.after ⟨1, 0⟩).advance place.ahead place.rest

/-- A cause and, nearly always, the place where it was noticed. -/
structure Fault where
  cause : Cause
  place : Option Place
deriving DecidableEq, Repr

namespace Fault

/-- The wording of a fault in a text. -/
def message (fault : Fault) (text : List Char) : String :=
  match fault.place with
  | none => fault.cause.message
  | some place =>
      let point := place.lineColumn text
      fault.cause.message ++ " at line " ++ toString point.line ++ " column " ++
        toString point.column

end Fault

/-- A step of reading: a value and what is left of the text. -/
abbrev Reader (α : Type) :=
  List Char → Except Fault (α × List Char)

/-- Stops right before the text that is left. -/
def stop {α : Type} (cause : Cause) (rest : List Char) : Except Fault α :=
  .error ⟨cause, some ⟨rest, 0⟩⟩

/-- Stops at the first byte of the text that is left, counting it as read. -/
def stopAt {α : Type} (cause : Cause) (rest : List Char) : Except Fault α :=
  .error ⟨cause, some ⟨rest, 1⟩⟩

end LibraryScout.Json
