/-!
Contract: sets of characters, and the white space among them.

A property of the Unicode character database is stored as the sorted list of its maximal closed
intervals of code points. Membership is decided by looking at the intervals one by one, so every
set in this form reduces in the kernel.

`isBlank` is the Unicode property `White_Space`: twenty-five characters, line feed and carriage
return among them. Every pattern over source text and every trimming of names and settings means
this class.
-/

namespace LibraryScout.Text

/-! ## Sets of characters -/

/-- A character lies in one of the closed intervals of a table. -/
def inRanges (ranges : List (Nat × Nat)) (character : Char) : Bool :=
  ranges.any fun range => range.1 ≤ character.toNat && character.toNat ≤ range.2

theorem inRanges_iff (ranges : List (Nat × Nat)) (character : Char) :
    inRanges ranges character = true ↔
      ∃ range ∈ ranges, range.1 ≤ character.toNat ∧ character.toNat ≤ range.2 := by
  simp [inRanges]

/-! ## White space -/

/-- The intervals of `White_Space`. -/
def blankRanges : List (Nat × Nat) :=
  [(0x09, 0x0D), (0x20, 0x20), (0x85, 0x85), (0xA0, 0xA0), (0x1680, 0x1680), (0x2000, 0x200A),
   (0x2028, 0x2029), (0x202F, 0x202F), (0x205F, 0x205F), (0x3000, 0x3000)]

/-- White space, line breaks included. -/
def isBlank (character : Char) : Bool :=
  inRanges blankRanges character

/-- The text without the white space it starts with. -/
def trimLeft (text : List Char) : List Char :=
  text.dropWhile isBlank

/-- The text without the white space it ends with. -/
def trimRight (text : List Char) : List Char :=
  (text.reverse.dropWhile isBlank).reverse

/-- The text without the white space at both ends. -/
def trim (text : List Char) : List Char :=
  trimRight (trimLeft text)

/-- `trim` on strings. -/
def trimmed (text : String) : String :=
  String.ofList (trim text.toList)

/-- A text of white space alone, the empty text included. -/
def isBlankText (text : String) : Bool :=
  text.toList.all isBlank

/-- The first run of characters other than white space, if there is one. -/
def firstToken? (text : List Char) : Option (List Char) :=
  match (trimLeft text).takeWhile fun character => !isBlank character with
  | [] => none
  | token => some token

end LibraryScout.Text
