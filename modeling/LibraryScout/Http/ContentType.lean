import LibraryScout.Charset.Decoding

/-!
Contract: the character set that a content type names.

A content type is a type and a subtype with parameters after semicolons; a value may stand in
quotes. Where the text is not of this form, or names no character set, there is none.
-/

namespace LibraryScout.Http.ContentType

/-- Characters of names and of values without quotes. -/
def isToken (character : Char) : Bool :=
  character.isAlphanum || "!#$%&'*+-.^_\x60|~".toList.contains character

/-- Characters that a content type may hold at all; values in quotes may hold all of them. -/
def isVisible (character : Char) : Bool :=
  32 ≤ character.toNat && character.toNat < 127

/-- Where reading stands. -/
inductive Place where
  | type (started : Bool)
  | subtype (started : Bool)
  | beforeName
  | name (read : List Char)
  | beforeValue (name : List Char)
  | value (name read : List Char)
  | quoted (name read : List Char)
  | afterQuote

/-- Where reading stands and the parameters read, the last first. -/
structure Progress where
  place : Place
  parameters : List (List Char × List Char)

/-- Reads one character; none where it cannot stand. Names and values read so far are in
reverse. -/
def Progress.step (progress : Progress) (character : Char) : Option Progress :=
  let go (place : Place) : Option Progress := some { progress with place }
  let keep (name read : List Char) (place : Place) : Option Progress :=
    some ⟨place, (name.reverse, read.reverse) :: progress.parameters⟩
  match progress.place with
  | .type started =>
      if isToken character then go (.type true)
      else if character = '/' && started then go (.subtype false)
      else none
  | .subtype started =>
      if character = ';' && started then go .beforeName
      else if isToken character then go (.subtype true)
      else none
  | .beforeName =>
      if character = ' ' then go .beforeName
      else if isToken character then go (.name [character])
      else none
  | .name read =>
      if character = '=' then go (.beforeValue read)
      else if isToken character then go (.name (character :: read))
      else none
  | .beforeValue name =>
      if character = '"' then go (.quoted name [])
      else if isToken character then go (.value name [character])
      else none
  | .value name read =>
      if character = ';' then keep name read .beforeName
      else if isToken character then go (.value name (character :: read))
      else none
  | .quoted name read =>
      if character = '"' && read ≠ [] then keep name read .afterQuote
      else if isVisible character then go (.quoted name (character :: read))
      else none
  | .afterQuote =>
      if character = ';' then go .beforeName
      else if character = ' ' then go .afterQuote
      else none

/-- The parameters when the text ends; none where it cannot end. -/
def Progress.finish (progress : Progress) : Option (List (List Char × List Char)) :=
  match progress.place with
  | .type _ => none
  | .subtype started => if started then some progress.parameters.reverse else none
  | .beforeName => some progress.parameters.reverse
  | .name _ => none
  | .beforeValue name => some ((name.reverse, []) :: progress.parameters).reverse
  | .value name read => some ((name.reverse, read.reverse) :: progress.parameters).reverse
  | .quoted _ _ => none
  | .afterQuote => some progress.parameters.reverse

def parameters? (text : String) : Option (List (List Char × List Char)) :=
  if text.toList.all isVisible then
    (text.toList.foldlM Progress.step ⟨.type false, []⟩).bind Progress.finish
  else
    none

/-- The name of the character set. -/
def charset? (text : String) : Option String :=
  ((parameters? text).getD []).findSome? fun (name, value) =>
    if String.ofList (name.map Char.toLower) = "charset" then some (String.ofList value) else none

/-- The encoding of a body with a content type. -/
def encoding (text : String) : Charset.Encoding :=
  ((charset? text).bind Charset.Encoding.ofLabel?).getD .utf8

end LibraryScout.Http.ContentType
