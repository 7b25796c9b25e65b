/-!
Contract: Punycode (RFC 3492), the form of labels beyond ASCII in ASCII letters, digits and
hyphens.

The ASCII characters of a label come first. The others follow in the order of their code points,
each as the distance from the place and code point before, in digits of base 36 whose thresholds
follow the distances.
-/

namespace LibraryScout.Host.Punycode

/-! ## Digits -/

def digitChar (digit : Nat) : Char :=
  if digit < 26 then Char.ofNat ('a'.toNat + digit) else Char.ofNat ('0'.toNat + (digit - 26))

def digitValue? (character : Char) : Option Nat :=
  if character.isLower then some (character.toNat - 'a'.toNat)
  else if character.isUpper then some (character.toNat - 'A'.toNat)
  else if character.isDigit then some (character.toNat - '0'.toNat + 26)
  else none

/-- The threshold of a digit: smaller digits end a number. -/
def threshold (position bias : Nat) : Nat :=
  if position ≤ bias then 1 else if bias + 26 ≤ position then 26 else position - bias

theorem threshold_bounds (position bias : Nat) :
    1 ≤ threshold position bias ∧ threshold position bias ≤ 26 := by
  unfold threshold
  split
  · omega
  · split <;> omega

/-- Divides a distance until it is small, and adds the base to the bias each time. -/
def shrink (distance bias : Nat) : Nat × Nat :=
  if 455 < distance then shrink (distance / 35) (bias + 36) else (distance, bias)
termination_by distance
decreasing_by exact Nat.div_lt_self (by omega) (by omega)

/-- The bias after a distance was written, with the number of characters written so far. -/
def adapt (distance count : Nat) (first : Bool) : Nat :=
  let damped := if first then distance / 700 else distance / 2
  let (rest, bias) := shrink (damped + damped / count) 0
  bias + 36 * rest / (rest + 38)

/-! ## Writing -/

/-- The digits of a distance. -/
def digits (bias position distance : Nat) : List Char :=
  let limit := threshold position bias
  if distance < limit then
    [digitChar distance]
  else
    digitChar (limit + (distance - limit) % (36 - limit)) ::
      digits bias (position + 36) ((distance - limit) / (36 - limit))
termination_by distance
decreasing_by
  have := threshold_bounds position bias
  exact Nat.lt_of_le_of_lt (Nat.div_le_self _ _) (by omega)

structure Writing where
  written : List Char
  distance : Nat
  bias : Nat
  count : Nat

/-- Passes one character while the characters of one code point are written. -/
def Writing.pass (basic code : Nat) (state : Writing) (character : Char) : Writing :=
  if character.toNat < code then
    { state with distance := state.distance + 1 }
  else if character.toNat = code then
    ⟨state.written ++ digits state.bias 36 state.distance, 0,
      adapt state.distance (state.count + 1) (state.count == basic), state.count + 1⟩
  else
    state

/-- Writes the characters of each code point, in ascending order; `next` is the least code point
not yet passed. -/
def writeCodes (label : List Char) (basic : Nat) (next : Nat) (state : Writing) :
    List Nat → Writing
  | [] => state
  | code :: later =>
      let moved := { state with distance := state.distance + (code - next) * (state.count + 1) }
      let done := label.foldl (Writing.pass basic code) moved
      writeCodes label basic (code + 1) { done with distance := done.distance + 1 } later

/-- The code points beyond ASCII, ascending, each once. -/
def codesOf (label : List Char) : List Nat :=
  (((label.map Char.toNat).filter fun code => 128 ≤ code).mergeSort (· ≤ ·)).eraseDups

def encode (label : List Char) : List Char :=
  let basic := label.filter fun character => character.toNat < 128
  let state := writeCodes label basic.length 128 ⟨[], 0, 72, basic.length⟩ (codesOf label)
  basic ++ (if basic = [] then [] else ['-']) ++ state.written

/-! ## Reading -/

/-- Reads the digits of one distance, and gives the rest of the text. -/
def readDistance (bias : Nat) : List Char → Nat → Nat → Nat → Option (Nat × List Char)
  | [], _, _, _ => none
  | character :: rest, position, weight, sum =>
      match digitValue? character with
      | none => none
      | some digit =>
          let limit := threshold position bias
          if digit < limit then some (sum + digit * weight, rest)
          else readDistance bias rest (position + 36) (weight * (36 - limit)) (sum + digit * weight)

theorem length_lt_of_readDistance {bias : Nat} {text rest : List Char}
    {position weight sum distance : Nat}
    (read : readDistance bias text position weight sum = some (distance, rest)) :
    rest.length < text.length := by
  induction text generalizing position weight sum with
  | nil => simp [readDistance] at read
  | cons character later inductionHypothesis =>
      rw [readDistance] at read
      split at read
      · cases read
      · dsimp only at read
        split at read
        · cases read
          simp
        · have := inductionHypothesis read
          simp; omega

/-- Reads distances and puts the characters at their places. `code` and `place` tell where the
last character went. -/
def readCodes (label : List Char) (code place bias : Nat) (first : Bool) (text : List Char) :
    Option (List Char) :=
  match text with
  | [] => some label
  | character :: later =>
      match read : readDistance bias (character :: later) 36 1 0 with
      | none => none
      | some (distance, rest) =>
          let count := label.length + 1
          let reached := place + distance
          let next := code + reached / count
          if 0x10FFFF < next ∨ (0xD800 ≤ next ∧ next ≤ 0xDFFF) then
            none
          else
            let position := reached % count
            readCodes (label.take position ++ Char.ofNat next :: label.drop position) next
              (position + 1) (adapt distance count first) false rest
termination_by text.length
decreasing_by exact length_lt_of_readDistance read

/-- The label that a Punycode text stands for; the last hyphen ends its ASCII part. -/
def decode? (text : List Char) : Option (List Char) :=
  if text.all fun character => character.toNat < 128 then
    match text.reverse.dropWhile fun character => character ≠ '-' with
    | [] => readCodes [] 128 0 72 true text
    | _ :: before =>
        let basic := before.reverse
        if basic = [] then none
        else readCodes basic 128 0 72 true (text.drop (basic.length + 1))
  else
    none

end LibraryScout.Host.Punycode
