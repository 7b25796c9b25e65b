import LibraryScout.Source.Extraction
import LibraryScout.Text.Lines
import LibraryScout.Text.Occurrences
import LibraryScout.Text.Word

/-!
Contract: the top-level packages that a Python source imports.

Two statements name packages, each at the start of a line, white space aside. `import` is
followed by a list of dotted paths up to the end of the line or a comment; a path may be renamed.
`from` is followed by one dotted path and by `import` with whatever it imports. The plain imports
come first. White space after a word may hold line breaks.
-/

namespace LibraryScout.Imports.Python

open LibraryScout.Source LibraryScout.Text

/-- The text of a line and what follows it, its line feed included. -/
def line (text : List Char) : List Char × List Char :=
  (text.takeWhile fun character => character ≠ '\n',
    text.dropWhile fun character => character ≠ '\n')

/-- The list after the word `import`, and the text after its line. -/
def importList? (text : List Char) : Option (List Char × List Char) :=
  match after? "import".toList text with
  | none => none
  | some afterWord =>
      match afterWord with
      | [] => none
      | character :: rest =>
          if isBlank character then
            match trimLeft rest with
            | [] => none
            | list => some (line list)
          else
            none

/-- Characters of a dotted path. -/
def isPathChar (character : Char) : Bool :=
  isWord character || character = '.'

/-- The text after one blank. -/
def afterOneBlank? : List Char → Option (List Char)
  | [] => none
  | character :: rest => if isBlank character then some rest else none

/-- What stands after the path of an import of names: one blank, the word, one blank, and at
least one character on the same line. The result is the text after that line. -/
def names? (text : List Char) : Option (List Char) := do
  let afterPath ← afterOneBlank? text
  let afterWord ← after? "import".toList afterPath
  let names ← afterOneBlank? afterWord
  match line names with
  | ([], _) => none
  | (_, rest) => some rest

/-- The path after the word `from`, and the text after the line of its names. -/
def sourcePath? (text : List Char) : Option (List Char × List Char) := do
  let afterWord ← after? "from".toList text
  let spaced ← afterOneBlank? afterWord
  let start := trimLeft spaced
  match start.takeWhile isPathChar with
  | [] => none
  | path =>
      let rest ← names? (start.dropWhile isPathChar)
      some (path, rest)

/-- The first segment of a dotted path. -/
def topLevel (path : List Char) : String :=
  String.ofList (upTo '.' path)

/-- The packages of a list of paths: comments and new names are dropped. -/
def listed (list : List Char) : List String :=
  (cut ',' (upTo '#' list)).filterMap fun clause => (firstToken? clause).map topLevel

/-- The lists of the plain imports of a source. -/
def importLists (text : List Char) : List (List Char) :=
  occurrences (fun lineBlank rest => if lineBlank then importList? rest else none) true text

/-- The paths from which a source imports names. -/
def sourcePaths (text : List Char) : List (List Char) :=
  occurrences (fun lineBlank rest => if lineBlank then sourcePath? rest else none) true text

/-- The packages of a source, each once. -/
def packages (text : String) : Context :=
  Context.unique ((importLists text.toList).flatMap listed ++
    (sourcePaths text.toList).map topLevel)

/-- The extraction of a source. -/
def extract (text : String) : Extraction :=
  .ofContext (packages text) .python

end LibraryScout.Imports.Python
