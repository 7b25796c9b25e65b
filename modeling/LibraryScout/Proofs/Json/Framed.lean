import LibraryScout.Proofs.Json.Value

/-!
Contract: numbers as parts of a text.

Owns:
- the grammar of numbers: `IsExponent`, `IsFraction`, `IsUnsigned` and `IsSigned`;
- `Framed`, that a reader reads texts of one shape only, and comes to the same value whatever stands
  behind such a text, as long as no number goes on with that;
- that every reader of a part of a number is framed by the grammar of that part.

Digits are read in two steps, those that still fit into the exact range and those that follow, and
in both steps a reader stops in front of the first character that is no digit. So a text is split
there first, and each reader is described by what it does on digits with such a rest behind them.

Does not own: the value of a number, and which numbers are too large to be read.
-/

namespace LibraryScout.Json

open LibraryScout.Text (StopsBefore dropWhile_run stopsBefore_dropWhile)

/-! ## The grammar of numbers -/

/-- Digits, of which there is at least one. -/
structure IsDigits (text : List Char) : Prop where
  nonempty : text ≠ []
  inside : ∀ digit ∈ text, isDigit digit = true

/-- The digits of an exponent, with or without a sign. -/
inductive IsPower : List Char → Prop where
  | plain {text : List Char} (digits : IsDigits text) : IsPower text
  | signed {sign : Char} {text : List Char} (isSign : sign = '+' ∨ sign = '-')
      (digits : IsDigits text) : IsPower (sign :: text)

/-- An exponent, or nothing. -/
inductive IsExponent : List Char → Prop where
  | none : IsExponent []
  | power {mark : Char} {text : List Char} (isMark : mark = 'e' ∨ mark = 'E')
      (power : IsPower text) : IsExponent (mark :: text)

/-- A point with digits behind it, or nothing, and an exponent, or nothing. -/
inductive IsFraction : List Char → Prop where
  | none {text : List Char} (exponent : IsExponent text) : IsFraction text
  | digits {text behind : List Char} (digits : IsDigits text) (exponent : IsExponent behind) :
      IsFraction ('.' :: (text ++ behind))

/-- A number without a sign. No other digit may follow a zero in front. -/
inductive IsUnsigned : List Char → Prop where
  | zero {behind : List Char} (fraction : IsFraction behind) : IsUnsigned ('0' :: behind)
  | digits {first : Char} {later behind : List Char} (digit : isDigit first = true)
      (nonzero : first ≠ '0') (inside : ∀ digit ∈ later, isDigit digit = true)
      (fraction : IsFraction behind) : IsUnsigned (first :: (later ++ behind))

/-- A number, with a minus sign or without. -/
inductive IsSigned : List Char → Prop where
  | plain {text : List Char} (unsigned : IsUnsigned text) : IsSigned text
  | negative {text : List Char} (unsigned : IsUnsigned text) : IsSigned ('-' :: text)

/-! ## Digits in front of a rest -/

section

variable {rest : List Char} (stops : StopsBefore isDigit rest)

include stops

theorem moreDigits_run (significand count : Nat) {digits : List Char}
    (inside : ∀ digit ∈ digits, isDigit digit = true) :
    moreDigits significand count (digits ++ rest) =
      ((moreDigits significand count digits).1, (moreDigits significand count digits).2.1,
        (moreDigits significand count digits).2.2 ++ rest) := by
  induction digits generalizing significand count with
  | nil =>
      cases rest with
      | nil => rfl
      | cons character later =>
          have noDigit : isDigit character = false := stops character rfl
          simp [moreDigits, noDigit]
  | cons digit later inductionHypothesis =>
      have laterInside := (List.forall_mem_cons.1 inside).2
      rw [List.cons_append, moreDigits, moreDigits]
      split
      · exact inductionHypothesis _ _ laterInside
      · rfl

theorem exponentDigits_run (exponent : Nat) {digits : List Char}
    (inside : ∀ digit ∈ digits, isDigit digit = true) :
    exponentDigits exponent (digits ++ rest) =
      ((exponentDigits exponent digits).1, (exponentDigits exponent digits).2.1,
        (exponentDigits exponent digits).2.2 ++ rest) := by
  induction digits generalizing exponent with
  | nil =>
      cases rest with
      | nil => rfl
      | cons character later =>
          have noDigit : isDigit character = false := stops character rfl
          simp [exponentDigits, noDigit]
  | cons digit later inductionHypothesis =>
      obtain ⟨isOne, laterInside⟩ := List.forall_mem_cons.1 inside
      rw [List.cons_append, exponentDigits, exponentDigits, if_pos isOne, if_pos isOne]
      dsimp only
      split
      · exact inductionHypothesis _ laterInside
      · rfl

end

/-- Every digit is either counted or left. -/
theorem moreDigits_count (significand count : Nat) (text : List Char) :
    (moreDigits significand count text).2.1 + (moreDigits significand count text).2.2.length =
      count + text.length := by
  induction text generalizing significand count with
  | nil => rfl
  | cons character rest inductionHypothesis =>
      rw [moreDigits]
      split
      · rw [inductionHypothesis, List.length_cons]
        omega
      · rfl

theorem moreDigits_suffix (significand count : Nat) (text : List Char) :
    (moreDigits significand count text).2.2 <:+ text := by
  induction text generalizing significand count with
  | nil => exact List.nil_suffix
  | cons character rest inductionHypothesis =>
      rw [moreDigits]
      split
      · exact (inductionHypothesis _ _).trans (List.suffix_cons character rest)
      · exact List.suffix_rfl

theorem exponentDigits_suffix (exponent : Nat) (text : List Char) :
    (exponentDigits exponent text).2.2 <:+ text := by
  induction text generalizing exponent with
  | nil => exact List.nil_suffix
  | cons character rest inductionHypothesis =>
      rw [exponentDigits]
      split
      · dsimp only
        split
        · exact (inductionHypothesis _).trans (List.suffix_cons character rest)
        · exact List.suffix_cons character rest
      · exact List.suffix_rfl

/-- Digits are only left behind when the exponent has become too large. -/
theorem exponentDigits_left {exponent : Nat} {digits : List Char}
    (inside : ∀ digit ∈ digits, isDigit digit = true)
    (small : (exponentDigits exponent digits).2.1 = false) :
    (exponentDigits exponent digits).2.2 = [] := by
  induction digits generalizing exponent with
  | nil => rfl
  | cons digit later inductionHypothesis =>
      obtain ⟨isOne, laterInside⟩ := List.forall_mem_cons.1 inside
      rw [exponentDigits, if_pos isOne] at small ⊢
      dsimp only at small ⊢
      split at small
      · rename_i fits
        rw [if_pos fits]
        exact inductionHypothesis laterInside small
      · cases small

/-! ## Readers in a frame -/

/-- What is read has a shape, and it comes to the same value whatever stands behind it, as long as
no number goes on with that. -/
def Framed {α : Type} (shape : List Char → Prop) (read : Reader α) : Prop :=
  ∀ text value rest, read text = .ok (value, rest) → ∃ used, text = used ++ rest ∧ shape used ∧
    ∀ other, StopsBefore continuesNumber other → read (used ++ other) = .ok (value, other)

/-- What does not start with a mark with which a number can go on does not start with it either
when something else stands behind. -/
theorem ne_mark_append {used rest other : List Char} {mark : Char}
    (goesOn : continuesNumber mark = true) (stops : StopsBefore continuesNumber other)
    (absent : ∀ later, used ++ rest ≠ mark :: later) : ∀ later, used ++ other ≠ mark :: later := by
  intro later starts
  cases used with
  | nil =>
      rw [List.nil_append] at starts
      have stop := stops mark (by simp [starts])
      rw [goesOn] at stop
      cases stop
  | cons first more =>
      obtain ⟨rfl, -⟩ := List.cons.inj starts
      exact absent (more ++ rest) rfl

theorem stopsBefore_isDigit_append {used rest other : List Char}
    (stops : StopsBefore continuesNumber other) (before : StopsBefore isDigit (used ++ rest)) :
    StopsBefore isDigit (used ++ other) := by
  cases used with
  | nil => exact digit_stops stops
  | cons first more => exact before

/-- A reader that splits off the digits in front and hands on what stands behind them is framed, if
the reader that it hands on to is. -/
theorem framed_behindDigits {α : Type} {read : Reader α} {shape inner : List Char → Prop}
    (accepts : List Char → Prop) {next : List Char → Reader α}
    (framed : ∀ digits, Framed inner (next digits))
    (shaped : ∀ digits behind, (∀ digit ∈ digits, isDigit digit = true) → accepts digits →
      inner behind → shape (digits ++ behind))
    (splits : ∀ digits rest, (∀ digit ∈ digits, isDigit digit = true) →
      StopsBefore isDigit rest → ∀ found,
        read (digits ++ rest) = .ok found ↔ accepts digits ∧ next digits rest = .ok found) :
    Framed shape read := by
  intro text value rest found
  have inside : ∀ digit ∈ text.takeWhile isDigit, isDigit digit = true :=
    fun _ member => List.mem_takeWhile_imp member
  have behind := stopsBefore_dropWhile isDigit text
  have parts : text.takeWhile isDigit ++ text.dropWhile isDigit = text :=
    List.takeWhile_append_dropWhile
  rw [← parts] at found
  obtain ⟨accepted, handedOn⟩ := (splits _ _ inside behind _).1 found
  obtain ⟨used, whole, innerShape, again⟩ := framed _ _ _ _ handedOn
  refine ⟨text.takeWhile isDigit ++ used, ?_, shaped _ _ inside accepted innerShape, ?_⟩
  · rw [List.append_assoc, ← whole, parts]
  · intro other stops
    rw [whole] at behind
    rw [List.append_assoc]
    exact (splits _ _ inside (stopsBefore_isDigit_append stops behind) _).2
      ⟨accepted, again other stops⟩

/-! ## The parts of a number -/

theorem framed_scaledNumber (negative : Bool) (significand : Nat) (exponent : Int) :
    Framed (fun used => used = []) (scaledNumber negative significand exponent) := by
  intro text number rest read
  unfold scaledNumber at read
  split at read
  next value scaled =>
    obtain ⟨rfl, rfl⟩ := Prod.mk.inj (Except.ok.inj read)
    refine ⟨[], rfl, rfl, fun other _ => ?_⟩
    rw [List.nil_append, scaledNumber, scaled]
  next => cases read

/-- The number behind the letter of an exponent and its sign. -/
def exponentValue (negative : Bool) (significand : Nat) (start : Int) (positive : Bool) :
    Reader Number
  | [] => stop .endInValue []
  | character :: rest =>
      if isDigit character then
        let (exponent, tooLarge, after) := exponentDigits (digitValue character) rest
        if tooLarge then
          if significand ≠ 0 && positive then
            stop .numberOutOfRange after
          else
            .ok (.float { Number.Binary64.zero with negative := negative },
              after.dropWhile isDigit)
        else if positive then
          scaledNumber negative significand (start + exponent) after
        else
          scaledNumber negative significand (start - exponent) after
      else
        stopAt .invalidNumber (character :: rest)

/-- Whether an exponent is positive, and what stands behind its sign. -/
def signed (text : List Char) : Bool × List Char :=
  match text with
  | '+' :: rest => (true, rest)
  | '-' :: rest => (false, rest)
  | _ => (true, text)

theorem exponentPart_eq (negative : Bool) (significand : Nat) (start : Int) (text : List Char) :
    exponentPart negative significand start text =
      exponentValue negative significand start (signed text).1 (signed text).2 :=
  rfl

/-- How a number ends whose exponent has these digits. -/
def exponentEnd (negative : Bool) (significand : Nat) (start : Int) (positive : Bool)
    (exponent : Nat) (tooLarge : Bool) : Reader Number := fun rest =>
  if tooLarge then
    .ok (.float { Number.Binary64.zero with negative := negative }, rest)
  else
    scaledNumber negative significand (if positive then start + exponent else start - exponent) rest

theorem framed_exponentEnd (negative : Bool) (significand : Nat) (start : Int) (positive : Bool)
    (exponent : Nat) (tooLarge : Bool) :
    Framed (fun used => used = [])
      (exponentEnd negative significand start positive exponent tooLarge) := by
  cases tooLarge with
  | false => exact framed_scaledNumber negative significand _
  | true =>
      intro text number rest read
      obtain ⟨rfl, rfl⟩ := Prod.mk.inj (Except.ok.inj read)
      exact ⟨[], rfl, rfl, fun other _ => rfl⟩

/-- An exponent that is too large for any number but zero is refused. -/
theorem exponentValue_run (negative : Bool) (significand : Nat) (start : Int) (positive : Bool)
    {first : Char} (digit : isDigit first = true) {digits rest : List Char}
    (inside : ∀ digit ∈ digits, isDigit digit = true) (stops : StopsBefore isDigit rest)
    (found : Number × List Char) :
    exponentValue negative significand start positive (first :: (digits ++ rest)) = .ok found ↔
      ((exponentDigits (digitValue first) digits).2.1 = true →
        (decide (significand ≠ 0) && positive) = false) ∧
      exponentEnd negative significand start positive (exponentDigits (digitValue first) digits).1
        (exponentDigits (digitValue first) digits).2.1 rest = .ok found := by
  have leftInside : ∀ digit ∈ (exponentDigits (digitValue first) digits).2.2,
      isDigit digit = true := fun digit member =>
    inside digit ((exponentDigits_suffix _ _).subset member)
  rw [exponentValue, if_pos digit, exponentDigits_run stops _ inside]
  dsimp only
  cases large : (exponentDigits (digitValue first) digits).2.1 with
  | true =>
      rw [if_pos rfl, dropWhile_run leftInside stops]
      cases (decide (significand ≠ 0) && positive) <;> simp [exponentEnd, stop]
  | false =>
      rw [exponentDigits_left inside large]
      cases positive <;> simp [exponentEnd]

theorem framed_exponentValue (negative : Bool) (significand : Nat) (start : Int)
    (positive : Bool) : Framed IsDigits (exponentValue negative significand start positive) := by
  intro text number rest read
  cases text with
  | nil => cases read
  | cons first later =>
      by_cases digit : isDigit first = true
      · have framed : Framed (fun used => IsDigits (first :: used)) fun behind =>
            exponentValue negative significand start positive (first :: behind) := by
          apply framed_behindDigits _ fun digits => framed_exponentEnd negative significand start
            positive (exponentDigits (digitValue first) digits).1
            (exponentDigits (digitValue first) digits).2.1
          · rintro digits _ inside - rfl
            rw [List.append_nil]
            exact ⟨List.cons_ne_nil _ _, List.forall_mem_cons.2 ⟨digit, inside⟩⟩
          · intro digits behind inside stops found
            exact exponentValue_run negative significand start positive digit inside stops found
        obtain ⟨used, whole, shape, again⟩ := framed later number rest read
        exact ⟨first :: used, by rw [whole, List.cons_append], shape, again⟩
      · rw [exponentValue, if_neg digit] at read
        cases read

theorem signed_of_ne {first : Char} (noPlus : first ≠ '+') (noMinus : first ≠ '-')
    (rest : List Char) : signed (first :: rest) = (true, first :: rest) := by
  unfold signed
  split
  next plus => exact absurd (List.cons.inj plus).1 noPlus
  next minus => exact absurd (List.cons.inj minus).1 noMinus
  next => rfl

theorem framed_exponentPart (negative : Bool) (significand : Nat) (start : Int) :
    Framed IsPower (exponentPart negative significand start) := by
  intro text number rest read
  cases text with
  | nil => cases read
  | cons first later =>
      rw [exponentPart_eq] at read
      by_cases plus : first = '+'
      · subst plus
        obtain ⟨used, rfl, digits, again⟩ := framed_exponentValue _ _ _ _ _ _ _ read
        exact ⟨'+' :: used, rfl, .signed (.inl rfl) digits, again⟩
      by_cases minus : first = '-'
      · subst minus
        obtain ⟨used, rfl, digits, again⟩ := framed_exponentValue _ _ _ _ _ _ _ read
        exact ⟨'-' :: used, rfl, .signed (.inr rfl) digits, again⟩
      rw [signed_of_ne plus minus] at read
      obtain ⟨used, whole, digits, again⟩ := framed_exponentValue _ _ _ _ _ _ _ read
      refine ⟨used, whole, .plain digits, fun other stops => ?_⟩
      obtain ⟨head, more, rfl⟩ := List.exists_cons_of_ne_nil digits.nonempty
      obtain ⟨rfl, -⟩ := List.cons.inj whole
      rw [exponentPart_eq, List.cons_append, signed_of_ne plus minus]
      exact again other stops

theorem framed_exponentOrEnd (negative : Bool) (significand : Nat) (exponent : Int) :
    Framed IsExponent (exponentOrEnd negative significand exponent) := by
  intro text number rest read
  unfold exponentOrEnd at read
  split at read
  next later =>
    obtain ⟨used, rfl, power, again⟩ := framed_exponentPart _ _ _ _ _ _ read
    exact ⟨'e' :: used, rfl, .power (.inl rfl) power, again⟩
  next later =>
    obtain ⟨used, rfl, power, again⟩ := framed_exponentPart _ _ _ _ _ _ read
    exact ⟨'E' :: used, rfl, .power (.inr rfl) power, again⟩
  next text noSmall noLarge =>
    obtain ⟨used, rfl, rfl, again⟩ := framed_scaledNumber _ _ _ _ _ _ read
    refine ⟨[], rfl, .none, fun other stops => ?_⟩
    rw [exponentOrEnd]
    · exact again other stops
    · exact ne_mark_append (by decide) stops noSmall
    · exact ne_mark_append (by decide) stops noLarge

/-- Digits behind a point are needed, and are read in front of an exponent. -/
theorem fractionPart_run (negative : Bool) (significand : Nat) (start : Int)
    {digits rest : List Char} (isDigits : IsDigits digits) (stops : StopsBefore isDigit rest) :
    fractionPart negative significand start (digits ++ rest) =
      exponentOrEnd negative (moreDigits significand 0 digits).1
        (start - (moreDigits significand 0 digits).2.1) rest := by
  have leftInside : ∀ digit ∈ (moreDigits significand 0 digits).2.2, isDigit digit = true :=
    fun digit member => isDigits.inside digit ((moreDigits_suffix _ _ _).subset member)
  rw [fractionPart, moreDigits_run stops _ _ isDigits.inside]
  dsimp only
  cases left : (moreDigits significand 0 digits).2.2 with
  | nil =>
      have counted := moreDigits_count significand 0 digits
      have some := List.length_pos_iff.2 isDigits.nonempty
      rw [left, List.length_nil] at counted
      rw [List.nil_append, startsDigit_eq_false_iff.2 stops, if_neg Bool.false_ne_true,
        if_neg (by omega)]
  | cons digit more =>
      rw [left] at leftInside
      have isOne : startsDigit (digit :: more ++ rest) = true := leftInside digit (by simp)
      rw [if_pos isOne, dropWhile_run leftInside stops]

theorem fractionPart_of_stops (negative : Bool) (significand : Nat) (start : Int)
    {rest : List Char} (stops : StopsBefore isDigit rest) (found : Number × List Char) :
    fractionPart negative significand start rest ≠ .ok found := by
  have nothing : moreDigits significand 0 rest = (significand, 0, rest) :=
    moreDigits_run stops significand 0 (List.forall_mem_nil _)
  rw [fractionPart, nothing]
  dsimp only
  rw [startsDigit_eq_false_iff.2 stops, if_neg Bool.false_ne_true, if_pos rfl]
  cases rest <;> simp [stop, stopAt]

theorem framed_fractionPart (negative : Bool) (significand : Nat) (start : Int) :
    Framed (fun used => ∃ digits behind, used = digits ++ behind ∧ IsDigits digits ∧
      IsExponent behind) (fractionPart negative significand start) := by
  apply framed_behindDigits IsDigits
    (fun digits => framed_exponentOrEnd negative (moreDigits significand 0 digits).1
      (start - (moreDigits significand 0 digits).2.1))
  · exact fun digits behind _ isDigits exponent => ⟨digits, behind, rfl, isDigits, exponent⟩
  · intro digits behind inside stops found
    by_cases nothing : digits = []
    · subst nothing
      constructor
      · exact fun read => absurd read (fractionPart_of_stops _ _ _ stops found)
      · exact fun accepted => absurd rfl accepted.1.nonempty
    · have isDigits : IsDigits digits := ⟨nothing, inside⟩
      rw [fractionPart_run _ _ _ isDigits stops]
      exact (and_iff_right isDigits).symm

theorem framed_wholeEnd (negative : Bool) (significand : Nat) :
    Framed IsFraction (wholeEnd negative significand) := by
  intro text number rest read
  unfold wholeEnd at read
  split at read
  next later =>
    obtain ⟨_, rfl, ⟨digits, behind, rfl, isDigits, exponent⟩, again⟩ :=
      framed_fractionPart _ _ _ _ _ _ read
    exact ⟨'.' :: (digits ++ behind), rfl, .digits isDigits exponent, again⟩
  next later =>
    obtain ⟨used, rfl, power, again⟩ := framed_exponentPart _ _ _ _ _ _ read
    exact ⟨'e' :: used, rfl, .none (.power (.inl rfl) power), again⟩
  next later =>
    obtain ⟨used, rfl, power, again⟩ := framed_exponentPart _ _ _ _ _ _ read
    exact ⟨'E' :: used, rfl, .none (.power (.inr rfl) power), again⟩
  next =>
    have still : rest = text ∧ ∀ other, StopsBefore continuesNumber other →
        wholeEnd negative significand other = .ok (number, other) := by
      split at read
      next minus =>
        split at read
        all_goals
          rename_i large
          obtain ⟨rfl, rfl⟩ := Prod.mk.inj (Except.ok.inj read)
          refine ⟨rfl, fun other stops => ?_⟩
          rw [wholeEnd_of_stops negative significand stops, if_pos minus]
        · rw [if_pos large]
        · rw [if_neg large]
      next plus =>
        obtain ⟨rfl, rfl⟩ := Prod.mk.inj (Except.ok.inj read)
        refine ⟨rfl, fun other stops => ?_⟩
        rw [wholeEnd_of_stops negative significand stops, if_neg plus]
    obtain ⟨rfl, again⟩ := still
    exact ⟨[], rfl, .none .none, again⟩

theorem framed_longEnd (negative : Bool) (significand : Nat) (exponent : Int) :
    Framed IsFraction (longEnd negative significand exponent) := by
  intro text number rest read
  unfold longEnd at read
  split at read
  next later =>
    obtain ⟨_, rfl, ⟨digits, behind, rfl, isDigits, exponent⟩, again⟩ :=
      framed_fractionPart _ _ _ _ _ _ read
    exact ⟨'.' :: (digits ++ behind), rfl, .digits isDigits exponent, again⟩
  next text noPoint =>
    obtain ⟨used, rfl, exponent, again⟩ := framed_exponentOrEnd _ _ _ _ _ _ read
    refine ⟨used, rfl, .none exponent, fun other stops => ?_⟩
    rw [longEnd]
    · exact again other stops
    · exact ne_mark_append (by decide) stops noPoint

/-- How a number ends whose digits are split into those that fit and those that are left. -/
def digitsEnd (negative : Bool) (significand : Nat) (left : List Char) : Reader Number :=
  if left = [] then wholeEnd negative significand else longEnd negative significand left.length

theorem framed_digitsEnd (negative : Bool) (significand : Nat) (left : List Char) :
    Framed IsFraction (digitsEnd negative significand left) := by
  unfold digitsEnd
  split
  · exact framed_wholeEnd negative significand
  · exact framed_longEnd negative significand left.length

theorem unsignedNumber_run (negative : Bool) {first : Char} (digit : isDigit first = true)
    (nonzero : first ≠ '0') {digits rest : List Char}
    (inside : ∀ digit ∈ digits, isDigit digit = true) (stops : StopsBefore isDigit rest) :
    unsignedNumber negative (first :: (digits ++ rest)) =
      digitsEnd negative (moreDigits (digitValue first) 0 digits).1
        (moreDigits (digitValue first) 0 digits).2.2 rest := by
  have leftInside : ∀ digit ∈ (moreDigits (digitValue first) 0 digits).2.2,
      isDigit digit = true := fun digit member =>
    inside digit ((moreDigits_suffix _ _ _).subset member)
  rw [unsignedNumber, if_pos digit, moreDigits_run stops _ _ inside]
  · dsimp only
    cases left : (moreDigits (digitValue first) 0 digits).2.2 with
    | nil =>
        rw [List.nil_append, startsDigit_eq_false_iff.2 stops, if_neg Bool.false_ne_true,
          digitsEnd, if_pos rfl]
    | cons one more =>
        rw [left] at leftInside
        have isOne : startsDigit (one :: more ++ rest) = true := leftInside one (by simp)
        have count : (one :: more ++ rest).length - rest.length = (one :: more).length := by
          rw [List.length_append, Nat.add_sub_cancel]
        rw [if_pos isOne, dropWhile_run leftInside stops, count, digitsEnd,
          if_neg (List.cons_ne_nil one more)]
  · exact fun zero => absurd zero nonzero

theorem framed_unsignedNumber (negative : Bool) :
    Framed IsUnsigned (unsignedNumber negative) := by
  intro text number rest read
  cases text with
  | nil => cases read
  | cons first later =>
      by_cases zero : first = '0'
      · subst zero
        rw [unsignedNumber] at read
        split at read
        next => cases read
        next noDigit =>
          obtain ⟨used, rfl, fraction, again⟩ := framed_wholeEnd _ _ _ _ _ read
          have behind := startsDigit_eq_false_iff.1 (Bool.eq_false_iff.2 noDigit)
          refine ⟨'0' :: used, rfl, .zero fraction, fun other stops => ?_⟩
          have noDigitAfter :=
            startsDigit_eq_false_iff.2 (stopsBefore_isDigit_append stops behind)
          rw [List.cons_append, unsignedNumber, noDigitAfter, if_neg Bool.false_ne_true]
          exact again other stops
      by_cases digit : isDigit first = true
      · have framed : Framed (fun used => IsUnsigned (first :: used)) fun behind =>
            unsignedNumber negative (first :: behind) := by
          apply framed_behindDigits (fun _ => True)
            fun digits => framed_digitsEnd negative (moreDigits (digitValue first) 0 digits).1
              (moreDigits (digitValue first) 0 digits).2.2
          · exact fun digits behind inside _ fraction => .digits digit zero inside fraction
          · intro digits behind inside stops found
            rw [unsignedNumber_run negative digit zero inside stops, true_and]
        obtain ⟨used, whole, shape, again⟩ := framed later number rest read
        exact ⟨first :: used, by rw [whole, List.cons_append], shape, again⟩
      · rw [unsignedNumber, if_neg digit] at read
        · cases read
        · exact fun same => absurd same zero

theorem IsUnsigned.ne_nil {text : List Char} (unsigned : IsUnsigned text) : text ≠ [] := by
  cases unsigned <;> exact List.cons_ne_nil _ _

theorem framed_numberLiteral : Framed IsSigned numberLiteral := by
  intro text number rest read
  unfold numberLiteral at read
  split at read
  next later =>
    obtain ⟨used, rfl, unsigned, again⟩ := framed_unsignedNumber _ _ _ _ read
    exact ⟨'-' :: used, rfl, .negative unsigned, again⟩
  next noMinus =>
    obtain ⟨used, rfl, unsigned, again⟩ := framed_unsignedNumber _ _ _ _ read
    refine ⟨used, rfl, .plain unsigned, fun other stops => ?_⟩
    obtain ⟨first, more, rfl⟩ := List.exists_cons_of_ne_nil unsigned.ne_nil
    rw [List.cons_append, numberLiteral]
    · exact again other stops
    · rintro later same
      obtain ⟨rfl, -⟩ := List.cons.inj same
      exact noMinus _ rfl

end LibraryScout.Json
