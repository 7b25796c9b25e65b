import LibraryScout.Host.Ipv4

/-!
Contract: IPv6 addresses as they stand in URLs, without their brackets.

An address has eight pieces of up to four hexadecimal digits with colons between them; two colons
stand once for any number of zero pieces, and an IPv4 address may stand for the last two. It is
written with the first longest run of zero pieces left out, if that run has two or more.
-/

namespace LibraryScout.Host.Ipv6

def pieceCount : Nat := 8

/-- The pieces before the two colons and after them, or all pieces. -/
structure Reading where
  before : List Nat
  after? : Option (List Nat)

namespace Reading

def count (reading : Reading) : Nat :=
  reading.before.length + (reading.after?.getD []).length + (if reading.after?.isSome then 1 else 0)

def push (reading : Reading) (piece : Nat) : Reading :=
  match reading.after? with
  | none => { reading with before := reading.before ++ [piece] }
  | some after => { reading with after? := some (after ++ [piece]) }

/-- All eight pieces. The two colons stand for one piece of zeros at least. -/
def pieces? (reading : Reading) : Option (List Nat) :=
  match reading.after? with
  | none => if reading.before.length = pieceCount then some reading.before else none
  | some after =>
      let shown := reading.before.length + after.length
      if shown < pieceCount then
        some (reading.before ++ List.replicate (pieceCount - shown) 0 ++ after)
      else
        none

end Reading

/-- A number of an embedded IPv4 address: up to 255, without leading zeros. -/
def byte? (digits : List Char) : Option Nat :=
  match digits with
  | [] => none
  | '0' :: _ :: _ => none
  | _ => if digits.length ≤ 3 then (Ipv4.inBase? 10 digits).filter (· ≤ 255) else none

/-- The two pieces of an embedded IPv4 address. -/
def embedded? (text : List Char) : Option (Nat × Nat) :=
  match (Text.cut '.' text).mapM byte? with
  | some [first, second, third, fourth] => some (first * 256 + second, third * 256 + fourth)
  | _ => none

/-- Reads pieces from the pieces of text between colons. An empty piece of text is one half of two
colons. -/
def readPieces (reading : Reading) : List (List Char) → Option Reading
  | [] => some reading
  | piece :: later =>
      if pieceCount ≤ reading.count then
        none
      else if piece = [] then
        if reading.after?.isSome || later = [] then none
        else readPieces { reading with after? := some [] } later
      else if piece.contains '.' then
        if later ≠ [] || 6 < reading.count then none
        else
          match embedded? piece with
          | some (high, low) => some ((reading.push high).push low)
          | none => none
      else if 4 < piece.length then
        none
      else
        match Ipv4.inBase? 16 piece with
        | some value => readPieces (reading.push value) later
        | none => none

/-- The pieces of an address. -/
def pieces? (text : List Char) : Option (List Nat) :=
  match Text.cut ':' text with
  | [[], []] => none
  | [[], [], []] => some (List.replicate pieceCount 0)
  | [] :: [] :: later =>
      (readPieces ⟨[], some []⟩ later).bind Reading.pieces?
  | [] :: _ => none
  | all =>
      match all.reverse with
      | [] :: [] :: before =>
          (readPieces ⟨[], none⟩ before.reverse).bind fun reading =>
            if reading.after?.isSome || pieceCount ≤ reading.count then none
            else Reading.pieces? { reading with after? := some [] }
      | _ => (readPieces ⟨[], none⟩ all).bind Reading.pieces?

/-! ## Writing -/

/-- How many zero pieces stand at the front. -/
def zeros (pieces : List Nat) : Nat :=
  (pieces.takeWhile fun piece => piece = 0).length

/-- The start and length of the first longest run of zero pieces. -/
def longestRun (pieces : List Nat) : Nat × Nat :=
  (List.range pieces.length).foldl (fun best start =>
      let length := zeros (pieces.drop start)
      if best.2 < length then (start, length) else best)
    (0, 0)

def hexText (value : Nat) : String :=
  String.ofList (Nat.toDigits 16 value)

def text (pieces : List Nat) : String :=
  let (start, length) := longestRun pieces
  let shown (part : List Nat) : String := Text.joined ":" (part.map hexText)
  if length < 2 then shown pieces
  else shown (pieces.take start) ++ "::" ++ shown (pieces.drop (start + length))

end LibraryScout.Host.Ipv6
