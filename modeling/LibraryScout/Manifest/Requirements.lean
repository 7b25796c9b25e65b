import LibraryScout.Source.Extraction
import LibraryScout.Text.Word

/-!
Contract: the packages of a requirements listing.

A word character at the start of a line starts the name of a package, which goes on as long as word
characters do. One comparator right behind the name belongs to the entry. The scan runs over the
whole listing and goes on behind each entry. Repetitions are kept.
-/

namespace LibraryScout.Manifest.Requirements

open LibraryScout.Source LibraryScout.Text

/-- The characters that a comparison with a version starts with. -/
def isComparator (character : Char) : Bool :=
  character = '=' || character = '<' || character = '>'

/-- What is left behind an entry, when the first character of its name has been read. -/
def behindEntry (text : List Char) : List Char :=
  match text.dropWhile isWord with
  | [] => []
  | character :: rest => if isComparator character then rest else character :: rest

theorem length_behindEntry_le (text : List Char) : (behindEntry text).length ≤ text.length := by
  have shorter : (text.dropWhile isWord).length ≤ text.length :=
    (List.dropWhile_suffix isWord).length_le
  unfold behindEntry
  split
  next => exact Nat.zero_le _
  next character rest split =>
    rw [split, List.length_cons] at shorter
    split
    · omega
    · rwa [List.length_cons]

/-- The names of the entries of a text in order. An entry starts at the start of a line only; behind
one, the line has started already. -/
def names (lineStart : Bool) (text : List Char) : List String :=
  match text with
  | [] => []
  | character :: rest =>
      if lineStart && isWord character then
        String.ofList (character :: rest.takeWhile isWord) :: names false (behindEntry rest)
      else
        names (character = '\n') rest
termination_by text.length
decreasing_by
  · have := length_behindEntry_le rest
    simp only [List.length_cons]
    omega
  · simp only [List.length_cons]
    omega

/-- The extraction of a listing. -/
def extract (text : String) : Extraction :=
  .ofContext (Context.ofList (names true text.toList)) .python

end LibraryScout.Manifest.Requirements
