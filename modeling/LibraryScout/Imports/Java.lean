import LibraryScout.Log.Event
import LibraryScout.Source.Extraction
import LibraryScout.Text.Lines
import LibraryScout.Text.Occurrences

/-!
Contract: the packages that a Java source imports from.

An import statement starts its line, white space aside: the word, one space, a path free of white
space and semicolons, and a semicolon, before which white space and line breaks may stand. The
package is the path without its last segment. A source without any package is worth a warning.
-/

namespace LibraryScout.Imports.Java

open LibraryScout.Source LibraryScout.Text

/-- Characters that a path may hold. -/
def isPathChar (character : Char) : Bool :=
  character ≠ ';' && !isBlank character

/-- The path of an import statement that starts a text, and the text after its semicolon. -/
def statement? (text : List Char) : Option (List Char × List Char) :=
  match after? "import ".toList text with
  | none => none
  | some afterWord =>
      match afterWord.takeWhile isPathChar with
      | [] => none
      | path =>
          match trimLeft (afterWord.dropWhile isPathChar) with
          | ';' :: rest => some (path, rest)
          | _ => none

/-- Import statements at the start of a line. -/
def pattern : Pattern (List Char) :=
  fun lineBlank text => if lineBlank then statement? text else none

/-- The paths of the import statements of a source. -/
def paths (text : List Char) : List (List Char) :=
  occurrences pattern true text

/-- A path without its last segment; a path of one segment has no package. -/
def packageOf (path : List Char) : String :=
  String.ofList ((beforeLast? '.' path).getD [])

/-- What a source without packages is reported with. -/
def noImports : Log.Event :=
  .warn .javaImports "No import statements found in Java source"

/-- The packages of a source, each once. -/
def packages (text : String) : Context :=
  Context.unique ((paths text.toList).map packageOf)

/-- The extraction of a source, and what is reported about it. -/
def extract (text : String) : Extraction × List Log.Event :=
  let found := packages text
  if found.isEmpty then
    (⟨.empty, .java, [.noImportStatements]⟩, [noImports])
  else
    (.ofContext found .java, [])

end LibraryScout.Imports.Java
