import LibraryScout.Text.Blank
import LibraryScout.Unicode.Composition
import LibraryScout.Unicode.DirectionTable
import LibraryScout.Unicode.HostMappingTable
import LibraryScout.Unicode.JoiningTable

/-!
Contract: which labels a host name may have beyond ASCII.

Owns:
- what each character of a name is read as;
- the rule for marks: no label starts with one;
- the rule for joiners: a joiner stands after a virama, or between letters that join around it;
- the rule for direction: a label is written in one direction, and starts and ends with characters
  of that direction.

Does not own: which ASCII characters a host may hold.
-/

namespace LibraryScout.Host

open LibraryScout.Text
open LibraryScout.Unicode

/-! ## Reading characters -/

namespace Mapping

def stepped : List (List Nat) :=
  rows steppedRows

def spelled : List (List Nat) :=
  rows spelledRows

def dropped : List (Nat × Nat) :=
  ranges droppedRows

def refused : List (Nat × Nat) :=
  ranges refusedRows

/-- What a character is read as; nothing for one that no name may hold. -/
def characters? (character : Char) : Option (List Char) :=
  let code := character.toNat
  let within (row : List Nat) : Bool :=
    match row with
    | first :: last :: _ => first ≤ code && code ≤ last
    | _ => false
  let onStep (row : List Nat) : Bool :=
    match row with
    | [first, last, step, _] => first ≤ code && code ≤ last && (code - first) % step == 0
    | _ => false
  if code < 128 then some [character.toLower]
  else if inRanges refused character then none
  else if inRanges dropped character then some []
  else
    match stepped.find? onStep with
    | some [first, _, _, target] => some [Char.ofNat (target + (code - first))]
    | _ =>
        match spelled.find? within with
        | some row => some ((row.drop 2).map Char.ofNat)
        | none => some [character]

end Mapping

/-- A name as it is read, in composed form; nothing for a name with a character that no name may
hold. -/
def normalized? (name : List Char) : Option (List Char) :=
  (name.mapM Mapping.characters?).map fun read => composed read.flatten

/-! ## Marks and joiners -/

def marks : List (Nat × Nat) :=
  ranges markRows

def isMark (character : Char) : Bool :=
  128 ≤ character.toNat && inRanges marks character

/-- How a character joins its neighbours. -/
inductive Joining where
  | none
  | transparent
  | left
  | right
  | both
deriving DecidableEq, Repr

def joinings : List (Nat × Nat × Nat) :=
  classes joiningRows

def joiningOf (character : Char) : Joining :=
  match classOf? joinings character with
  | some 1 => .transparent
  | some 2 => .left
  | some 3 => .right
  | some 4 => .both
  | _ => .none

/-- The first way of joining that is not transparent. -/
def firstJoining (text : List Char) : Joining :=
  match text.find? fun character => joiningOf character ≠ .transparent with
  | some character => joiningOf character
  | none => .none

def zeroWidthNonJoiner : Char := '\u200C'
def zeroWidthJoiner : Char := '\u200D'

/-- The class that orders a virama among marks. -/
def viramaOrder : Nat := 9

/-- Whether each joiner stands where it may; the text before it is given in reverse. -/
def joinersFit (before : List Char) : List Char → Bool
  | [] => true
  | character :: after =>
      let afterVirama := match before with
        | last :: _ => Composition.order last == viramaOrder
        | [] => false
      let fits :=
        if character = zeroWidthJoiner then afterVirama
        else if character = zeroWidthNonJoiner then
          afterVirama ||
            ((firstJoining before = .left || firstJoining before = .both) &&
              (firstJoining after = .right || firstJoining after = .both))
        else true
      fits && joinersFit (character :: before) after

/-! ## Direction -/

inductive Direction where
  | leftToRight
  | rightToLeft
  | arabicLetter
  | arabicDigit
  | europeanDigit
  | separator
  | commonSeparator
  | terminator
  | neutral
  | boundary
  | mark
  | forbidden
deriving DecidableEq, Repr

def directions : List (Nat × Nat × Nat) :=
  classes directionRows

def directionOf (character : Char) : Direction :=
  match classOf? directions character with
  | some 1 => .rightToLeft
  | some 2 => .arabicLetter
  | some 3 => .arabicDigit
  | some 4 => .europeanDigit
  | some 5 => .separator
  | some 6 => .commonSeparator
  | some 7 => .terminator
  | some 8 => .neutral
  | some 9 => .boundary
  | some 10 => .mark
  | some 11 => .forbidden
  | _ => .leftToRight

/-- The label makes its whole name one with right-to-left writing. -/
def isRightToLeft (label : List Char) : Bool :=
  label.any fun character =>
    directionOf character ∈ [Direction.rightToLeft, .arabicLetter, .arabicDigit]

/-- What a label of either direction may hold besides its own letters and digits. -/
def shared : List Direction :=
  [.europeanDigit, .separator, .commonSeparator, .terminator, .neutral, .boundary, .mark]

/-- The direction of the last character that is no mark. -/
def lastDirection (directions : List Direction) : Option Direction :=
  directions.reverse.find? fun direction => direction ≠ .mark

/-- Whether a label of a name with right-to-left writing keeps to one direction. -/
def keepsDirection (label : List Char) : Bool :=
  let directions := label.map directionOf
  match directions with
  | [] => true
  | .leftToRight :: _ =>
      (directions.all fun direction => direction == .leftToRight || shared.contains direction) &&
        (lastDirection directions == some .leftToRight ||
          lastDirection directions == some .europeanDigit)
  | first :: _ =>
      (first == .rightToLeft || first == .arabicLetter) &&
      (directions.all fun direction =>
        direction == .rightToLeft || direction == .arabicLetter || direction == .arabicDigit ||
          shared.contains direction) &&
      (lastDirection directions).any (fun direction =>
        direction == .rightToLeft || direction == .arabicLetter || direction == .arabicDigit ||
          direction == .europeanDigit) &&
      !(directions.contains .europeanDigit && directions.contains .arabicDigit)

/-- Whether a label, in the form in which it is read, is one that a name may have. -/
def isValidLabel (label : List Char) : Bool :=
  (match label with
    | first :: _ => !isMark first
    | [] => true) && joinersFit [] label

end LibraryScout.Host
