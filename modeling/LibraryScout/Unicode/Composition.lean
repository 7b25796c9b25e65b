import LibraryScout.Unicode.CompositionTable

/-!
Contract: the composed form of a text (Unicode normalization form C).

A text is taken apart into base characters and marks, the marks on each base are put into the order
of their classes, and then each base takes up the marks that it can be put together with. Korean
syllables are taken apart and put together by arithmetic.
-/

namespace LibraryScout.Unicode

namespace Composition

def composites : List (List Nat) :=
  rows compositeRows

def divided : List (List Nat) :=
  rows dividedRows

def orders : List (Nat × Nat × Nat) :=
  classes orderRows

/-- The class that orders a mark; characters that are no marks have class 0. -/
def order (character : Char) : Nat :=
  if character.toNat < 0x300 then 0 else (classOf? orders character).getD 0

/-! ## Korean syllables -/

def firstSyllable : Nat := 0xAC00
def firstLead : Nat := 0x1100
def firstVowel : Nat := 0x1161
def beforeTail : Nat := 0x11A7
def leadCount : Nat := 19
def vowelCount : Nat := 21
def tailCount : Nat := 28

/-- The letters of a syllable. -/
def syllableParts? (code : Nat) : Option (List Nat) :=
  if firstSyllable ≤ code ∧ code < firstSyllable + leadCount * vowelCount * tailCount then
    let place := code - firstSyllable
    let lead := firstLead + place / (vowelCount * tailCount)
    let vowel := firstVowel + place % (vowelCount * tailCount) / tailCount
    let tail := place % tailCount
    some ([lead, vowel] ++ (if tail = 0 then [] else [beforeTail + tail]))
  else
    none

/-- The syllable of two letters, or of a syllable and a letter after it. -/
def syllable? (first second : Nat) : Option Nat :=
  if firstLead ≤ first ∧ first < firstLead + leadCount ∧
      firstVowel ≤ second ∧ second < firstVowel + vowelCount then
    some (firstSyllable +
      ((first - firstLead) * vowelCount + (second - firstVowel)) * tailCount)
  else if firstSyllable ≤ first ∧ first < firstSyllable + leadCount * vowelCount * tailCount ∧
      (first - firstSyllable) % tailCount = 0 ∧
      beforeTail < second ∧ second < beforeTail + tailCount then
    some (first + (second - beforeTail))
  else
    none

/-! ## Taking apart -/

/-- The parts of a character in one step. -/
def parts? (code : Nat) : Option (List Nat) :=
  match syllableParts? code with
  | some letters => some letters
  | none =>
      let starts (row : List Nat) : Bool := row.head? = some code
      ((composites.find? starts).or (divided.find? starts)).map List.tail

/-- The parts of a character, which are taken apart in turn. No character takes more steps than
the bound given to it. -/
def apart (code : Nat) : Nat → List Nat
  | 0 => [code]
  | bound + 1 =>
      if code < 0xC0 then [code]
      else
        match parts? code with
        | some parts => parts.flatMap fun part => apart part bound
        | none => [code]

/-- How many steps it takes at most to take a character apart. -/
def deepest : Nat :=
  4

/-! ## Ordering marks -/

/-- Puts a mark before those at the front that have a higher class. The text before it is given
in reverse. -/
def placed (mark : Char) (before : List Char) : List Char :=
  match before with
  | [] => [mark]
  | last :: earlier =>
      if order mark ≠ 0 ∧ order mark < order last then last :: placed mark earlier
      else mark :: before

/-- The text with the marks on each base in the order of their classes. -/
def ordered (text : List Char) : List Char :=
  (text.foldl (fun before character => placed character before) []).reverse

/-! ## Putting together -/

def together? (first second : Char) : Option Char :=
  match syllable? first.toNat second.toNat with
  | some code => some (Char.ofNat code)
  | none =>
      if second.toNat < 0x300 then none
      else
        (composites.find? fun row => row.tail = [first.toNat, second.toNat]).bind fun row =>
          row.head?.map Char.ofNat

/-- A base with the marks after it that it did not take up, the last first. -/
structure Gathered where
  done : List Char
  base? : Option Char
  marks : List Char

/-- The next character joins the base unless a mark of the same or a higher class, or another
base, stands between them. -/
def gather (gathered : Gathered) (character : Char) : Gathered :=
  let finished : Gathered :=
    ⟨gathered.marks ++ gathered.base?.toList ++ gathered.done, some character, []⟩
  match gathered.base? with
  | none =>
      if order character = 0 then finished
      else { gathered with done := character :: gathered.done }
  | some base =>
      let free := match gathered.marks with
        | [] => true
        | last :: _ => order last ≠ 0 && order last < order character
      match (if free then together? base character else none) with
      | some joined => { gathered with base? := some joined }
      | none =>
          if order character = 0 then finished
          else { gathered with marks := character :: gathered.marks }

def putTogether (text : List Char) : List Char :=
  let gathered := text.foldl gather ⟨[], none, []⟩
  (gathered.marks ++ gathered.base?.toList ++ gathered.done).reverse

end Composition

/-- The composed form of a text. -/
def composed (text : List Char) : List Char :=
  if text.all fun character => character.toNat < 0x300 then text
  else
    Composition.putTogether (Composition.ordered (text.flatMap fun character =>
      (Composition.apart character.toNat Composition.deepest).map Char.ofNat))

end LibraryScout.Unicode
