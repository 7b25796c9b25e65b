import LibraryScout.Json.Printer
import LibraryScout.Proofs.Json.Spelling
import LibraryScout.Proofs.Text.Pieces
import Mathlib.Algebra.Group.Int.Defs
import Mathlib.Algebra.Group.Nat.Defs

/-!
Contract: strings and whole numbers are read as they were written.

Owns:
- string literals: what is written for a character is one of its spellings;
- `Number.IsWhole`, whole numbers: the digits of one are read back up to what follows them.

A number is read up to the first character that cannot continue it, so what is written after a
number must not start with one that can.

Does not own: numbers with a fraction or an exponent, whose last digits reading need not keep.
-/

namespace LibraryScout.Json

open LibraryScout.Text (StopsBefore dropWhile_of_stopsBefore)

/-! ## Strings -/

theorem hexValue?_hexDigit {value : Nat} (small : value < 16) :
    hexValue? (hexDigit value) = some value := by
  have all : ∀ digit : Fin 16, hexValue? (hexDigit digit.val) = some digit.val := by decide
  exact all ⟨value, small⟩

theorem hexDigit_mod (value : Nat) : hexDigit (value % 16) = hexDigit value := by
  rw [hexDigit, hexDigit, Nat.mod_mod]

theorem escape_of_control {character : Char} (control : character.toNat < 32) :
    Escape character
      ['u', '0', '0', hexDigit (character.toNat / 16), hexDigit character.toNat] := by
  have zero : hexValue? '0' = some 0 := by decide
  have high : hexValue? (hexDigit (character.toNat / 16)) = some (character.toNat / 16) :=
    hexValue?_hexDigit (by omega)
  have low : hexValue? (hexDigit character.toNat) = some (character.toNat % 16) := by
    rw [← hexDigit_mod]
    exact hexValue?_hexDigit (Nat.mod_lt _ (by decide))
  have unit : ((0 * 16 + 0) * 16 + character.toNat / 16) * 16 + character.toNat % 16 =
      character.toNat := by
    omega
  have hex := HexUnit.digits zero zero high low
  rw [unit] at hex
  have escape := Escape.unit hex (by omega)
  rwa [Char.ofNat_toNat] at escape

/-- What a printer writes for a character is one of its spellings. -/
theorem spelled_escapeChar (character : Char) : Spelled character (escapeChar character) := by
  unfold escapeChar
  split
  case h_8 quote backslash _ _ _ _ _ =>
    split
    case isTrue control => exact .escaped (escape_of_control control)
    case isFalse visible => exact .plain (Nat.not_lt.1 visible) quote backslash
  all_goals exact .escaped (.short (by decide))

theorem spells_escaped (text : List Char) : Spells text (text.flatMap escapeChar) := by
  induction text with
  | nil => exact .nil
  | cons character later inductionHypothesis =>
      exact .cons (spelled_escapeChar character) inductionHypothesis

theorem stringLiteral_escaped (text : String) (rest : List Char) :
    stringLiteral (text.toList.flatMap escapeChar ++ '"' :: rest) = .ok (text, rest) :=
  stringLiteral_of_spells (spells_escaped text.toList) rest

theorem literal_append (text : String) (rest : List Char) :
    literal text ++ rest = '"' :: (text.toList.flatMap escapeChar ++ '"' :: rest) := by
  simp [literal]

/-! ## Whole numbers -/

namespace Number

/-- A signed or unsigned number of 64 bits. Zero with a minus sign is one of them, although it is
kept as a floating-point number. -/
def IsWhole : Number → Prop
  | .integer value => -(2 : Int) ^ 63 ≤ value ∧ value ≤ (2 : Int) ^ 64 - 1
  | .float value => value = ⟨true, 0, -1074⟩

instance (number : Number) : Decidable number.IsWhole := by
  unfold IsWhole
  cases number <;> infer_instance

end Number

/-- The characters with which a number can go on. -/
def continuesNumber (character : Char) : Bool :=
  isDigit character || character == '.' || character == 'e' || character == 'E'

theorem isDigit_eq (character : Char) : isDigit character = character.isDigit := by
  rw [Bool.eq_iff_iff]
  simp [isDigit, Char.isDigit, Char.le_def]

theorem digit_stops {rest : List Char} (stops : StopsBefore continuesNumber rest) :
    StopsBefore isDigit rest := by
  intro character first
  have stop := stops character first
  simp only [continuesNumber, Bool.or_eq_false_iff] at stop
  exact stop.1.1.1

theorem startsDigit_eq_false_iff {text : List Char} :
    startsDigit text = false ↔ StopsBefore isDigit text := by
  cases text with
  | nil => simp [startsDigit, StopsBefore]
  | cons character rest => simp [startsDigit, StopsBefore]

theorem le_ofDigitChars (digits : List Char) (value : Nat) :
    value ≤ Nat.ofDigitChars 10 digits value := by
  rw [Nat.ofDigitChars_eq_ofDigitChars_zero]
  have atLeast : 1 * value ≤ 10 ^ digits.length * value :=
    Nat.mul_le_mul_right value (Nat.one_le_pow _ _ (by decide))
  omega

/-- Digits are read to their end as long as the number stays in range. -/
theorem moreDigits_append {digits rest : List Char} {value : Nat} (count : Nat)
    (allDigits : ∀ digit ∈ digits, digit.isDigit = true) (stops : StopsBefore isDigit rest)
    (inRange : Nat.ofDigitChars 10 digits value ≤ largestWhole) :
    moreDigits value count (digits ++ rest) =
      (Nat.ofDigitChars 10 digits value, count + digits.length, rest) := by
  induction digits generalizing value count with
  | nil =>
      cases rest with
      | nil => simp [moreDigits]
      | cons character later =>
          have noDigit : isDigit character = false := stops character rfl
          simp [moreDigits, noDigit]
  | cons digit later inductionHypothesis =>
      have isOne : isDigit digit = true := by
        rw [isDigit_eq]
        exact allDigits digit List.mem_cons_self
      have step : 10 * value + (digit.toNat - '0'.toNat) = value * 10 + digitValue digit := by
        rw [digitValue, Nat.mul_comm]
      rw [Nat.ofDigitChars_cons, step] at inRange
      have fits : value * 10 + digitValue digit ≤ largestWhole :=
        Nat.le_trans (le_ofDigitChars later _) inRange
      have read := inductionHypothesis (count + 1)
        (fun other member => allDigits other (List.mem_cons_of_mem _ member)) inRange
      rw [List.cons_append, moreDigits, Nat.ofDigitChars_cons, step]
      simp [isOne, fits, read, Nat.add_assoc, Nat.add_comm 1]

/-- The digits of a positive number do not start with a zero. -/
theorem head?_toDigits_ne {value : Nat} (positive : 0 < value) :
    (Nat.toDigits 10 value).head? ≠ some '0' := by
  induction value using Nat.strongRecOn with
  | ind value inductionHypothesis =>
      by_cases small : value < 10
      · rw [Nat.toDigits_of_lt_base small]
        have all : ∀ digit : Fin 10, 0 < digit.val → [digit.val.digitChar].head? ≠ some '0' := by
          decide
        exact all ⟨value, small⟩ positive
      · have shorter : 0 < value / 10 := by omega
        have front := inductionHypothesis (value / 10) (by omega) shorter
        rw [List.head?_eq_some_head Nat.toDigits_ne_nil] at front
        rw [Nat.toDigits_of_base_le (by decide) (by omega), List.head?_append,
          List.head?_eq_some_head Nat.toDigits_ne_nil]
        exact front

theorem unsignedNumber_toDigits {value : Nat} (negative : Bool) {rest : List Char}
    (inRange : value ≤ largestWhole) (stops : StopsBefore isDigit rest) :
    unsignedNumber negative (Nat.toDigits 10 value ++ rest) = wholeEnd negative value rest := by
  rcases Nat.eq_zero_or_pos value with rfl | positive
  · rw [Nat.toDigits_zero, List.singleton_append, unsignedNumber]
    simp [startsDigit_eq_false_iff.2 stops]
  · have noZero := head?_toDigits_ne positive
    have allDigits : ∀ digit ∈ Nat.toDigits 10 value, digit.isDigit = true :=
      fun digit => Nat.isDigit_of_mem_toDigits (by decide) (by decide)
    have whole : Nat.ofDigitChars 10 (Nat.toDigits 10 value) 0 = value :=
      Nat.ofDigitChars_ten_toDigits
    cases digits : Nat.toDigits 10 value with
    | nil => exact absurd digits Nat.toDigits_ne_nil
    | cons first later =>
        rw [digits] at noZero allDigits whole
        have isOne : isDigit first = true := by
          rw [isDigit_eq]
          exact allDigits first List.mem_cons_self
        have read : Nat.ofDigitChars 10 later (digitValue first) = value := by
          rw [Nat.ofDigitChars_cons] at whole
          simpa [digitValue] using whole
        have more := moreDigits_append 0
          (fun other member => allDigits other (List.mem_cons_of_mem _ member)) stops
          (read ▸ inRange)
        rw [List.cons_append, unsignedNumber]
        · simp [isOne, more, read, startsDigit_eq_false_iff.2 stops]
        · intro zero
          exact noZero (by simp [zero])

theorem wholeEnd_of_stops (negative : Bool) (value : Nat) {rest : List Char}
    (stops : StopsBefore continuesNumber rest) :
    wholeEnd negative value rest =
      if negative then
        if value = 0 || value > Nat.pow 2 63 then
          .ok (.float { (Number.Binary64.ofNat? value).getD .zero with negative := true }, rest)
        else
          .ok (.integer (-(value : Int)), rest)
      else
        .ok (.integer value, rest) := by
  unfold wholeEnd
  split
  · exact absurd (stops '.' rfl) (by decide)
  · exact absurd (stops 'e' rfl) (by decide)
  · exact absurd (stops 'E' rfl) (by decide)
  · rfl

/-- Zero with a minus sign is written with a fraction, and read back with it. -/
theorem numberLiteral_negativeZero {rest : List Char}
    (stops : StopsBefore continuesNumber rest) :
    numberLiteral ('-' :: '0' :: '.' :: '0' :: rest) = .ok (.float ⟨true, 0, -1074⟩, rest) := by
  have noDigit := startsDigit_eq_false_iff.2 (digit_stops stops)
  have fraction : moreDigits 0 0 ('0' :: rest) = (0, 1, rest) := by
    have zero : ∀ digit ∈ ['0'], digit.isDigit = true := List.forall_mem_singleton.2 rfl
    exact moreDigits_append 0 zero (digit_stops stops) (by decide)
  have noExponent : exponentOrEnd true 0 (0 - (1 : Nat)) rest =
      scaledNumber true 0 (0 - (1 : Nat)) rest := by
    unfold exponentOrEnd
    split
    · exact absurd (stops 'e' rfl) (by decide)
    · exact absurd (stops 'E' rfl) (by decide)
    · rfl
  have scaled : scaled? 0 (0 - (1 : Nat)) = some .zero := by decide +kernel
  have noDigitAfterZero : startsDigit ('.' :: '0' :: rest) = false := rfl
  rw [numberLiteral, unsignedNumber, noDigitAfterZero, if_neg Bool.false_ne_true, wholeEnd,
    fractionPart, fraction]
  simp only [noDigit, Bool.false_eq_true, if_false]
  rw [if_neg (by decide), noExponent, scaledNumber, scaled]
  rfl

theorem text_natural (value : Nat) :
    (Number.integer value).text.toList = Nat.toDigits 10 value := by
  have written : (Number.integer value).text = toString value := rfl
  rw [written, Nat.toString_eq_ofList_toDigits, String.toList_ofList]

theorem text_negative (value : Nat) :
    (Number.integer (Int.negSucc value)).text.toList = '-' :: Nat.toDigits 10 (value + 1) := by
  have written : (Number.integer (Int.negSucc value)).text = "-" ++ toString (value + 1) := rfl
  rw [written, String.toList_append, Nat.toString_eq_ofList_toDigits]
  simp

theorem numberLiteral_toDigits (value : Nat) (rest : List Char) :
    numberLiteral (Nat.toDigits 10 value ++ rest) =
      unsignedNumber false (Nat.toDigits 10 value ++ rest) := by
  cases digits : Nat.toDigits 10 value with
  | nil => exact absurd digits Nat.toDigits_ne_nil
  | cons first later =>
      have digit : first.isDigit = true :=
        Nat.isDigit_of_mem_toDigits (by decide) (by decide) (digits ▸ List.mem_cons_self)
      rw [List.cons_append, numberLiteral]
      intro other minus
      obtain rfl := (List.cons.inj minus).1
      exact absurd digit (by decide)

theorem largestWhole_eq : largestWhole = 2 ^ 64 - 1 := rfl

theorem isWhole_natural {value : Nat} (inRange : value ≤ largestWhole) :
    (Number.integer value).IsWhole := by
  rw [largestWhole_eq] at inRange
  exact ⟨by omega, by omega⟩

theorem numberLiteral_natural {value : Nat} (inRange : value ≤ largestWhole) {rest : List Char}
    (stops : StopsBefore continuesNumber rest) :
    numberLiteral (Nat.toDigits 10 value ++ rest) = .ok (.integer value, rest) := by
  rw [numberLiteral_toDigits, unsignedNumber_toDigits false inRange (digit_stops stops),
    wholeEnd_of_stops false value stops]
  rfl

/-- A whole number is read as it was written. -/
theorem numberLiteral_text {number : Number} (whole : number.IsWhole) {rest : List Char}
    (stops : StopsBefore continuesNumber rest) :
    numberLiteral (number.text.toList ++ rest) = .ok (number, rest) := by
  cases number with
  | float value =>
      obtain rfl : value = ⟨true, 0, -1074⟩ := whole
      have written : (Number.float ⟨true, 0, -1074⟩).text.toList = ['-', '0', '.', '0'] := by
        decide +kernel
      rw [written]
      exact numberLiteral_negativeZero stops
  | integer value =>
      obtain ⟨least, greatest⟩ := whole
      cases value with
      | ofNat natural =>
          have fits : natural ≤ largestWhole := by
            rw [largestWhole_eq]
            rw [Int.ofNat_eq_natCast] at greatest
            omega
          have written := text_natural natural
          rw [Int.ofNat_eq_natCast, written]
          exact numberLiteral_natural fits stops
      | negSucc predecessor =>
          have notLarge : ¬ predecessor + 1 > Nat.pow 2 63 := by
            have power : Nat.pow 2 63 = 2 ^ 63 := rfl
            rw [power]
            omega
          have fits : predecessor + 1 ≤ largestWhole := by
            rw [largestWhole_eq]
            omega
          rw [text_negative, List.cons_append, numberLiteral,
            unsignedNumber_toDigits true fits (digit_stops stops),
            wholeEnd_of_stops true _ stops, if_pos rfl, if_neg (by simpa using notLarge)]
          rfl

end LibraryScout.Json
