import LibraryScout.Ignore.Glob

/-!
Contract: the written form of globs.

`?` stands for one byte and `*` for a run of bytes of a name; `**` next to slashes or to an end
stands for whole directories; brackets hold a set, braces hold alternatives with commas between
them, and a backslash takes the next character as it is. A text is no glob when braces do not
pair, when a range of a set runs backwards or when a backslash ends the text. A bracket that is
never closed stands for itself, and so do the brackets after it.
-/

namespace LibraryScout.Ignore

namespace Glob

/-- Why a text is no glob. -/
inductive Fault where
  | unclosedBrace
  | unopenedBrace
  | danglingBackslash
  /-- A range of a set that ends before its start. -/
  | backwardsRange (low high : Char)
deriving DecidableEq, Repr

def Fault.message : Fault → String
  | unclosedBrace =>
      "unclosed alternate group; missing '\x7d' (maybe escape '\x7b' with '[\x7b]'?)"
  | unopenedBrace =>
      "unopened alternate group; missing '\x7b' (maybe escape '\x7d' with '[\x7d]'?)"
  | danglingBackslash => "dangling '\\'"
  | backwardsRange low high =>
      "invalid range; '" ++ low.toString ++ "' > '" ++ high.toString ++ "'"

/-! ## Sets -/

/-- The ranges of bytes that a range of characters stands for: the last byte of the first
character to the first byte of the last one, and every other byte of the two alone. -/
def byteRanges (low high : Char) : List (UInt8 × UInt8) :=
  let alone (bytes : Bytes) : List (UInt8 × UInt8) := bytes.map fun byte => (byte, byte)
  let first := String.utf8EncodeChar low
  let last := String.utf8EncodeChar high
  if low = high then
    alone first
  else
    match first.getLast?, last with
    | some start, stop :: others => alone first.dropLast ++ (start, stop) :: alone others
    | _, _ => []

/-- What follows an opening bracket. -/
inductive Bracket where
  | closed (ranges : List (Char × Char)) (rest : List Char)
  | unclosed
  | faulty (fault : Fault)

/-- The last range of a set moved to a new end, which must not lie before its start. The ranges
stand in reverse. -/
def extendLast (ranges : List (Char × Char)) (high : Char) : Except Fault (List (Char × Char)) :=
  match ranges with
  | [] => .ok []
  | (low, _) :: others =>
      if high < low then .error (.backwardsRange low high) else .ok ((low, high) :: others)

/-- Reads a set up to its closing bracket. `ranges` holds what was read, the last first;
`pending` tells that a hyphen awaits the end of a range. A closing bracket or a hyphen at the
start is a member of the set, and so is a hyphen before the closing bracket. -/
def bracket (ranges : List (Char × Char)) (pending : Bool) : List Char → Bracket
  | [] => .unclosed
  | character :: rest =>
      if character = ']' ∧ ranges ≠ [] then
        .closed (if pending then ('-', '-') :: ranges else ranges).reverse rest
      else if pending then
        match extendLast ranges character with
        | .ok extended => bracket extended false rest
        | .error fault => .faulty fault
      else if character = '-' ∧ ranges ≠ [] then
        bracket ranges true rest
      else
        bracket ((character, character) :: ranges) false rest

theorem length_lt_of_bracket {ranges found : List (Char × Char)} {pending : Bool}
    {text rest : List Char} (read : bracket ranges pending text = .closed found rest) :
    rest.length < text.length := by
  induction text generalizing ranges pending with
  | nil => simp [bracket] at read
  | cons character later inductionHypothesis =>
      rw [bracket] at read
      split at read
      · cases read
        simp
      · split at read
        · split at read
          · have := inductionHypothesis read
            simp; omega
          · cases read
        · split at read
          · have := inductionHypothesis read
            simp; omega
          · have := inductionHypothesis read
            simp; omega

/-- What follows an opening bracket and the mark that turns a set around. -/
def bracketBody (text : List Char) : Bool × List Char :=
  match text with
  | '!' :: rest => (true, rest)
  | '^' :: rest => (true, rest)
  | rest => (false, rest)

theorem length_bracketBody_le (text : List Char) :
    (bracketBody text).2.length ≤ text.length := by
  unfold bracketBody
  split <;> simp

/-! ## Alternatives -/

/-- An open brace: the parts before it and the alternatives before the current one, each the last
first. -/
structure Opened where
  before : List Token
  branches : List (List Token)

/-- What was read: the open braces, innermost first, and the parts of the current sequence, the
last first. -/
structure Progress where
  opened : List Opened
  current : List Token

namespace Progress

def push (progress : Progress) (token : Token) : Progress :=
  { progress with current := token :: progress.current }

def openBrace (progress : Progress) : Progress :=
  ⟨⟨progress.current, []⟩ :: progress.opened, []⟩

def comma (progress : Progress) : Progress :=
  match progress.opened with
  | [] => progress.push (.literal ',')
  | innermost :: others =>
      ⟨{ innermost with branches := progress.current.reverse :: innermost.branches } :: others, []⟩

def closeBrace? (progress : Progress) : Option Progress :=
  match progress.opened with
  | [] => none
  | innermost :: others =>
      some ⟨others, .choice (progress.current.reverse :: innermost.branches).reverse
        :: innermost.before⟩

end Progress

/-! ## Stars -/

/-- The step for two stars, given the character before them and the text after them, with what
remains of that text. -/
def doubleStar (progress : Progress) (previous : Option Char) (rest : List Char) :
    Progress × List Char :=
  let asStars := ((progress.push .anyRun).push .anyRun, rest)
  let inBraces := !progress.opened.isEmpty
  match progress.current with
  | [] =>
      match rest with
      | [] => (progress.push .leadingDirectories, [])
      | '/' :: later => (progress.push .leadingDirectories, later)
      | _ => asStars
  | last :: before =>
      let replaced (token : Token) : Progress :=
        match last with
        | .leadingDirectories => progress
        | .trailingPath => progress
        | _ => { progress with current := token :: before }
      if previous = some '/' ∨ (inBraces ∧ (previous = some ',' ∨ previous = some '\x7b')) then
        match rest with
        | [] => (replaced .trailingPath, [])
        | '/' :: later => (replaced .innerDirectories, later)
        | ',' :: _ => if inBraces then (replaced .trailingPath, rest) else asStars
        | '\x7d' :: _ => if inBraces then (replaced .trailingPath, rest) else asStars
        | _ => asStars
      else
        asStars

/-- The character just before what a step left, when it took more than the stars. -/
def lastTaken (rest left : List Char) : Option Char :=
  if left.length < rest.length then some '/' else some '*'

theorem length_doubleStar_le (progress : Progress) (previous : Option Char) (rest : List Char) :
    (doubleStar progress previous rest).2.length ≤ rest.length := by
  unfold doubleStar
  split
  · split <;> simp
  · dsimp only
    split
    · split
      · simp
      · simp
      · split <;> simp
      · split <;> simp
      · simp
    · simp

/-! ## Reading -/

/-- Reads the rest of a glob. `setsClosed` tells that no bracket was left open so far. -/
def readFrom (progress : Progress) (previous : Option Char) (setsClosed : Bool) :
    List Char → Except Fault Glob
  | [] => if progress.opened.isEmpty then .ok progress.current.reverse else .error .unclosedBrace
  | '?' :: rest => readFrom (progress.push .anyByte) (some '?') setsClosed rest
  | '*' :: '*' :: rest =>
      have : (doubleStar progress previous rest).2.length ≤ rest.length :=
        length_doubleStar_le progress previous rest
      readFrom (doubleStar progress previous rest).1
        (lastTaken rest (doubleStar progress previous rest).2) setsClosed
        (doubleStar progress previous rest).2
  | '*' :: rest => readFrom (progress.push .anyRun) (some '*') setsClosed rest
  | '\x7b' :: rest => readFrom progress.openBrace (some '\x7b') setsClosed rest
  | '\x7d' :: rest =>
      match progress.closeBrace? with
      | some next => readFrom next (some '\x7d') setsClosed rest
      | none => .error .unopenedBrace
  | ',' :: rest => readFrom progress.comma (some ',') setsClosed rest
  | '\\' :: rest =>
      match rest with
      | [] => .error .danglingBackslash
      | character :: later =>
          readFrom (progress.push (.literal character)) (some character) setsClosed later
  | '[' :: rest =>
      if setsClosed then
        match read : bracket [] false (bracketBody rest).2 with
        | .faulty fault => .error fault
        | .unclosed => readFrom (progress.push (.literal '[')) (some '[') false rest
        | .closed ranges later =>
            have : later.length < (rest.length + 1) :=
              Nat.lt_succ_of_lt (Nat.lt_of_lt_of_le (length_lt_of_bracket read)
                (length_bracketBody_le rest))
            readFrom (progress.push (.oneOf (bracketBody rest).1
              (ranges.flatMap fun (low, high) => byteRanges low high))) (some ']') setsClosed later
      else
        readFrom (progress.push (.literal '[')) (some '[') setsClosed rest
  | character :: rest =>
      readFrom (progress.push (.literal character)) (some character) setsClosed rest
termination_by text => text.length

/-- The glob that a text stands for. -/
def ofText (text : List Char) : Except Fault Glob :=
  readFrom ⟨[], []⟩ none true text

end Glob

end LibraryScout.Ignore
