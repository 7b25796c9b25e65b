import LibraryScout.Log.Event
import LibraryScout.Source.Extraction
import LibraryScout.Text.Occurrences

/-!
Contract: the modules that a JavaScript source requires or imports.

Two forms name a module: a call of `require` with a quoted specifier, and an import clause with
bindings, the word `from` and a quoted specifier. The required modules come first. Specifiers
that are paths into the project itself start with a point or a slash and are left out.
-/

namespace LibraryScout.Imports.JavaScript

open LibraryScout.Source LibraryScout.Text

def isQuote (character : Char) : Bool :=
  character = '"' || character = '\''

/-- Specifiers that name a module of a registry. -/
def isExternal (specifier : List Char) : Bool :=
  match specifier with
  | [] => false
  | first :: _ => first.isAlphanum || first = '@'

/-! ## Calls -/

/-- A quoted specifier that starts a text, and the text after its closing quote. -/
def requiredName? : List Char → Option (List Char × List Char)
  | [] => none
  | opening :: rest =>
      if isQuote opening then
        match rest.takeWhile fun character => !isQuote character with
        | [] => none
        | specifier =>
            match rest.dropWhile fun character => !isQuote character with
            | [] => none
            | _ :: after => some (specifier, after)
      else
        none

/-- The specifier of a call that starts a text, and the text after the call. -/
def call? (text : List Char) : Option (List Char × List Char) :=
  match after? "require(".toList text with
  | none => none
  | some argument =>
      match requiredName? argument with
      | some (specifier, ')' :: rest) => some (specifier, rest)
      | _ => none

/-! ## Import clauses -/

/-- Characters of a specifier in an import clause. -/
def isSpecifierChar (character : Char) : Bool :=
  !isQuote character && character ≠ '\n'

/-- Characters between `import` and `from`. -/
def isBindingChar (character : Char) : Bool :=
  !isQuote character && character ≠ '\n' && character ≠ ';'

/-- The quoted specifier of an import clause. -/
def importedName? : List Char → Option (List Char × List Char)
  | [] => none
  | opening :: rest =>
      if isQuote opening then
        match rest.takeWhile isSpecifierChar with
        | [] => none
        | specifier =>
            match rest.dropWhile isSpecifierChar with
            | [] => none
            | closing :: after => if isQuote closing then some (specifier, after) else none
      else
        none

/-- The text after white space, of which there has to be some. -/
def afterBlank? : List Char → Option (List Char)
  | [] => none
  | character :: rest => if isBlank character then some (trimLeft rest) else none

/-- The specifier after the word `from`. -/
def source? (text : List Char) : Option (List Char × List Char) :=
  match after? "from".toList text with
  | none => none
  | some afterWord =>
      match afterBlank? afterWord with
      | none => none
      | some name => importedName? name

/-- After bindings have started: the specifier behind the first white space that `from` and a
specifier follow. White space inside the bindings stays on one line. -/
def bindings? (text : List Char) : Option (List Char × List Char) :=
  match text with
  | [] => none
  | character :: rest =>
      if isBlank character then
        match source? (trimLeft rest) with
        | some found => some found
        | none =>
            if isBindingChar character && (rest.takeWhile isBlank).all isBindingChar then
              bindings? (trimLeft rest)
            else
              none
      else if isBindingChar character then
        bindings? rest
      else
        none
termination_by text.length
decreasing_by
  · simp only [List.length_cons]
    exact Nat.lt_succ_of_le (List.dropWhile_sublist _).length_le
  · simp

/-- Bindings of white space alone: they need one character on a line between two blanks. -/
def blankBindings (blanks : List Char) : Bool :=
  (blanks.drop 1).dropLast.any isBindingChar

/-- The specifier of an import clause that starts a text, and the text after the clause. -/
def clause? (text : List Char) : Option (List Char × List Char) :=
  match after? "import".toList text with
  | none => none
  | some afterWord =>
      match afterBlank? afterWord with
      | none => none
      | some start =>
          let named :=
            match start with
            | [] => none
            | first :: rest => if isBindingChar first then bindings? rest else none
          match named with
          | some found => some found
          | none =>
              if blankBindings (afterWord.takeWhile isBlank) then source? start else none

/-! ## Sources -/

/-- The specifiers of all calls of a source. -/
def required (text : List Char) : List (List Char) :=
  occurrences (fun _ rest => call? rest) true text

/-- The specifiers of all import clauses of a source. -/
def imported (text : List Char) : List (List Char) :=
  occurrences (fun _ rest => clause? rest) true text

/-- The modules of a source, each once. -/
def modules (text : String) : Context :=
  let specifiers := required text.toList ++ imported text.toList
  Context.unique ((specifiers.filter isExternal).map String.ofList)

/-- The extraction of a source. -/
def extract (text : String) : Extraction :=
  .ofContext (modules text) .js

end LibraryScout.Imports.JavaScript
