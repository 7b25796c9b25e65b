import LibraryScout.Json.Reader

/-!
Contract: passing over a value that nobody asked for.

A member with an unknown name is passed over without building its value. Words, numbers and
string literals are still checked, but neither the depth of nesting nor the range of numbers nor
the pairing of surrogates is.
-/

namespace LibraryScout.Json.Skip

/-- Passes over an escape after its backslash: how many characters it has. -/
def escapeLength : List Char → Except Fault Nat
  | [] => stop .endInString []
  | 'u' :: rest => (fourHex rest).map fun _ => 5
  | character :: rest =>
      if character ∈ ['"', '\\', '/', 'b', 'f', 'n', 'r', 't'] then .ok 1
      else stopAt .invalidEscape (character :: rest)

/-- Passes over a string literal after its opening quote. -/
def literal (text : List Char) : Except Fault (List Char) :=
  match text with
  | [] => stop .endInString []
  | '"' :: rest => .ok rest
  | '\\' :: rest =>
      match escapeLength rest with
      | .error fault => .error fault
      | .ok length => literal (rest.drop length)
  | character :: rest =>
      if character.toNat < 0x20 then stop .controlCharacter (character :: rest) else literal rest
termination_by text.length
decreasing_by
  all_goals simp only [List.length_cons, List.length_drop]; omega

/-- Passes over what follows the letter of an exponent. -/
def exponentPart (text : List Char) : Except Fault (List Char) :=
  let digits :=
    match text with
    | '+' :: rest => rest
    | '-' :: rest => rest
    | _ => text
  match digits with
  | [] => stop .invalidNumber []
  | character :: rest =>
      if isDigit character then .ok (rest.dropWhile isDigit)
      else stopAt .invalidNumber (character :: rest)

def exponentOrEnd : List Char → Except Fault (List Char)
  | 'e' :: rest => exponentPart rest
  | 'E' :: rest => exponentPart rest
  | text => .ok text

/-- Ends a number whose whole digits are passed over. -/
def wholeEnd : List Char → Except Fault (List Char)
  | '.' :: rest =>
      if startsDigit rest then exponentOrEnd (rest.dropWhile isDigit)
      else stopAt .invalidNumber rest
  | text => exponentOrEnd text

/-- Passes over the digits of a number after its sign. -/
def unsignedNumber : List Char → Except Fault (List Char)
  | [] => stop .invalidNumber []
  | '0' :: rest => if startsDigit rest then stopAt .invalidNumber rest else wholeEnd rest
  | character :: rest =>
      if isDigit character then wholeEnd (rest.dropWhile isDigit)
      else stopAt .invalidNumber (character :: rest)

/-- Passes over a value that is neither an array nor an object. -/
def scalar : List Char → Except Fault (List Char)
  | [] => stopAt .endInValue []
  | 'n' :: rest => word ['u', 'l', 'l'] rest
  | 't' :: rest => word ['r', 'u', 'e'] rest
  | 'f' :: rest => word ['a', 'l', 's', 'e'] rest
  | '"' :: rest => literal rest
  | '-' :: rest => unsignedNumber rest
  | character :: rest =>
      if isDigit character then unsignedNumber (character :: rest)
      else stopAt .expectedValue (character :: rest)

/-- What is open around the point of reading. -/
inductive Frame where
  | list
  | object
deriving DecidableEq, Repr

/-- What the text is passed over as next: an item with its name, where it has one; or what may
follow an item, a comma only if there was one. -/
inductive Next where
  | item
  | follow (commaAllowed : Bool)
deriving DecidableEq, Repr

/-- The name and the colon of a member. -/
def memberStart (text : List Char) : Except Fault (List Char) :=
  match skipSpace text with
  | [] => stopAt .endInObject []
  | '"' :: rest =>
      match literal rest with
      | .error fault => .error fault
      | .ok after => colon after
  | rest => stopAt .nameNotString rest

/-- Passes over the rest of a value inside its open frames. -/
def frames (next : Next) (opened : List Frame) : (steps : Nat) → List Char →
    Except Fault (List Char)
  | 0, text => stopAt .endInValue text
  | steps + 1, text =>
      match next, opened with
      | .item, _ =>
          match skipSpace text with
          | '[' :: rest => frames (.follow false) (.list :: opened) steps rest
          | '\x7b' :: rest => frames (.follow false) (.object :: opened) steps rest
          | start =>
              match scalar start with
              | .error fault => .error fault
              | .ok rest => frames (.follow true) opened steps rest
      | .follow _, [] => .ok text
      | .follow commaAllowed, frame :: outer =>
          let enter (rest : List Char) : Except Fault (List Char) :=
            match frame with
            | .list => frames .item opened steps rest
            | .object =>
                match memberStart rest with
                | .error fault => .error fault
                | .ok start => frames .item opened steps start
          match skipSpace text with
          | [] => stopAt (if frame = .list then .endInList else .endInObject) []
          | character :: rest =>
              if character = ',' && commaAllowed then enter rest
              else if character = ']' && frame = .list then
                frames (.follow true) outer steps rest
              else if character = '\x7d' && frame = .object then
                frames (.follow true) outer steps rest
              else if commaAllowed then
                stopAt (if frame = .list then .expectedListEnd else .expectedObjectEnd)
                  (character :: rest)
              else
                enter (character :: rest)

/-- Passes over one value. -/
def value (text : List Char) : Except Fault (List Char) :=
  frames .item [] (2 * text.length + 2) text

end LibraryScout.Json.Skip
