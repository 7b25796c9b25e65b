import LibraryScout.Json.Skip
import Mathlib.Data.List.Basic

/-!
Contract: what readers pass over.

Owns:
- `Scan`, whether a place of a text is in a string, and `places`, those that are in none;
- `Past`, that what was read of a text ends outside of its strings;
- that every reader of a token stops past what it has read, and so does passing over a value.

Does not own: lists and members, whose items are read by other readers.
-/

namespace LibraryScout.Json

/-! ## Places -/

/-- What a place of a text is in. -/
inductive Scan where
  | outside
  | string
  | escaped
deriving DecidableEq, Repr

/-- What the place after a character is in. -/
def Scan.after (character : Char) : Scan → Scan
  | outside => if character = '"' then string else outside
  | string => if character = '"' then outside else if character = '\\' then escaped else string
  | escaped => string

/-- What is left of a text at each place outside of its strings. -/
def places (scan : Scan) : List Char → List (List Char)
  | [] => []
  | character :: rest =>
      (if scan = .outside then [character :: rest] else []) ++ places (scan.after character) rest

/-- A text is read up to some rest, and a scan along with it. -/
def Scanned (start : Scan) (text : List Char) (finish : Scan) (rest : List Char) : Prop :=
  ∃ read, text = read ++ rest ∧
    read.foldl (fun scan character => scan.after character) start = finish

namespace Scanned

variable {first second third : Scan} {text middle rest : List Char}

theorem refl (scan : Scan) (text : List Char) : Scanned scan text scan text :=
  ⟨[], rfl, rfl⟩

theorem trans (start : Scanned first text second middle)
    (later : Scanned second middle third rest) : Scanned first text third rest := by
  obtain ⟨front, rfl, rfl⟩ := start
  obtain ⟨back, rfl, rfl⟩ := later
  exact ⟨front ++ back, (List.append_assoc ..).symm, List.foldl_append⟩

/-- One character more. -/
theorem cons {character : Char} (later : Scanned (first.after character) text third rest) :
    Scanned first (character :: text) third rest := by
  obtain ⟨read, rfl, rfl⟩ := later
  exact ⟨character :: read, rfl, rfl⟩

/-- The places of the rest are places of the text. -/
theorem mem_places (scanned : Scanned first text second rest) {place : List Char}
    (member : place ∈ places second rest) : place ∈ places first text := by
  obtain ⟨read, rfl, rfl⟩ := scanned
  induction read generalizing first with
  | nil => exact member
  | cons character later inductionHypothesis =>
      exact List.mem_append_right _ (inductionHypothesis member)

end Scanned

/-- What was read of a text ends outside of its strings. -/
def Past (text rest : List Char) : Prop :=
  Scanned .outside text .outside rest

theorem Past.refl (text : List Char) : Past text text :=
  Scanned.refl .outside text

theorem Past.trans {text middle rest : List Char} (start : Past text middle)
    (later : Past middle rest) : Past text rest :=
  Scanned.trans start later

theorem Past.cons {character : Char} {text rest : List Char} (later : Past text rest)
    (noQuote : character ≠ '"') : Past (character :: text) rest := by
  refine Scanned.cons ?_
  rw [Scan.after, if_neg noQuote]
  exact later

theorem past_tail {character : Char} (rest : List Char) (noQuote : character ≠ '"') :
    Past (character :: rest) rest :=
  (Past.refl rest).cons noQuote

theorem past_dropWhile {skip : Char → Bool} (noQuote : skip '"' = false) (text : List Char) :
    Past text (text.dropWhile skip) := by
  induction text with
  | nil => exact Past.refl []
  | cons character rest inductionHypothesis =>
      rw [List.dropWhile_cons]
      split
      case isTrue skipped =>
        refine inductionHypothesis.cons ?_
        rintro rfl
        rw [noQuote] at skipped
        cases skipped
      case isFalse => exact Past.refl _

theorem past_skipSpace (text : List Char) : Past text (skipSpace text) :=
  past_dropWhile (by decide) text

theorem past_of_skipSpace {text rest left : List Char} (found : skipSpace text = rest)
    (later : Past rest left) : Past text left := by
  have start := past_skipSpace text
  rw [found] at start
  exact start.trans later

theorem past_word {expected text rest : List Char} (noQuote : '"' ∉ expected)
    (read : word expected text = .ok rest) : Past text rest := by
  induction expected generalizing text with
  | nil =>
      obtain rfl := Except.ok.inj read
      exact Past.refl _
  | cons letter letters inductionHypothesis =>
      cases text with
      | nil => cases read
      | cons character later =>
          rw [word] at read
          split at read
          · rename_i same
            have past := inductionHypothesis (fun isLater => noQuote (.tail letter isLater)) read
            refine past.cons fun quote => noQuote ?_
            rw [← same, quote]
            exact List.mem_cons_self
          · cases read

/-! ## Numbers -/

theorem exists_of_map_eq_ok {ε α β : Type} {result : Except ε α} {change : α → β} {value : β}
    (mapped : result.map change = .ok value) : ∃ held, result = .ok held ∧ change held = value := by
  cases result with
  | error fault => cases mapped
  | ok held => exact ⟨held, rfl, Except.ok.inj mapped⟩

theorem ne_quote_of_isDigit {character : Char} (digit : isDigit character = true) :
    character ≠ '"' := by
  rintro rfl
  exact absurd digit (by decide)

theorem past_digits (text : List Char) : Past text (text.dropWhile isDigit) :=
  past_dropWhile (by decide) text

theorem past_moreDigits (significand count : Nat) (text : List Char) :
    Past text (moreDigits significand count text).2.2 := by
  induction text generalizing significand count with
  | nil => exact Past.refl []
  | cons character rest inductionHypothesis =>
      rw [moreDigits]
      split
      case isTrue fits =>
        simp only [Bool.and_eq_true] at fits
        exact (inductionHypothesis _ _).cons (ne_quote_of_isDigit fits.1)
      case isFalse => exact Past.refl _

theorem past_exponentDigits (exponent : Nat) (text : List Char) :
    Past text (exponentDigits exponent text).2.2 := by
  induction text generalizing exponent with
  | nil => exact Past.refl []
  | cons character rest inductionHypothesis =>
      rw [exponentDigits]
      split
      case isTrue digit =>
        dsimp only
        split
        · exact (inductionHypothesis _).cons (ne_quote_of_isDigit digit)
        · exact past_tail rest (ne_quote_of_isDigit digit)
      case isFalse => exact Past.refl _

/-- Whatever a reader comes to, it stops past what it has read. -/
def Passes {α : Type} (read : Reader α) : Prop :=
  ∀ text value rest, read text = .ok (value, rest) → Past text rest

theorem passes_scaledNumber (negative : Bool) (significand : Nat) (exponent : Int) :
    Passes (scaledNumber negative significand exponent) := by
  intro text number rest read
  unfold scaledNumber at read
  split at read
  · obtain ⟨_, rfl⟩ := Prod.mk.inj (Except.ok.inj read)
    exact Past.refl _
  · cases read

theorem passes_exponentPart (negative : Bool) (significand : Nat) (start : Int) :
    Passes (exponentPart negative significand start) := by
  intro text number rest read
  unfold exponentPart at read
  split at read
  rename_i positive digits signed
  have sign : Past text digits := by
    split at signed
    · obtain ⟨_, rfl⟩ := Prod.mk.inj signed
      exact past_tail _ (by decide)
    · obtain ⟨_, rfl⟩ := Prod.mk.inj signed
      exact past_tail _ (by decide)
    · obtain ⟨_, rfl⟩ := Prod.mk.inj signed
      exact Past.refl _
  refine sign.trans ?_
  dsimp only at read
  split at read
  · cases read
  · rename_i first later
    split at read
    · rename_i digit
      have after := past_exponentDigits (digitValue first) later
      refine Past.cons ?_ (ne_quote_of_isDigit digit)
      split at read
      · split at read
        · cases read
        · obtain ⟨_, rfl⟩ := Prod.mk.inj (Except.ok.inj read)
          exact after.trans (past_digits _)
      · split at read
        · exact after.trans (passes_scaledNumber _ _ _ _ _ _ read)
        · exact after.trans (passes_scaledNumber _ _ _ _ _ _ read)
    · cases read

theorem passes_exponentOrEnd (negative : Bool) (significand : Nat) (exponent : Int) :
    Passes (exponentOrEnd negative significand exponent) := by
  intro text number rest read
  unfold exponentOrEnd at read
  split at read
  · exact (passes_exponentPart _ _ _ _ _ _ read).cons (by decide)
  · exact (passes_exponentPart _ _ _ _ _ _ read).cons (by decide)
  · exact passes_scaledNumber _ _ _ _ _ _ read

theorem passes_fractionPart (negative : Bool) (significand : Nat) (start : Int) :
    Passes (fractionPart negative significand start) := by
  intro text number rest read
  have digits := past_moreDigits significand 0 text
  unfold fractionPart at read
  split at read
  rename_i found
  rw [found] at digits
  split at read
  · exact (digits.trans (past_digits _)).trans (passes_exponentOrEnd _ _ _ _ _ _ read)
  · split at read
    · split at read
      · cases read
      · cases read
    · exact digits.trans (passes_exponentOrEnd _ _ _ _ _ _ read)

theorem passes_wholeEnd (negative : Bool) (significand : Nat) :
    Passes (wholeEnd negative significand) := by
  intro text number rest read
  unfold wholeEnd at read
  split at read
  · exact (passes_fractionPart _ _ _ _ _ _ read).cons (by decide)
  · exact (passes_exponentPart _ _ _ _ _ _ read).cons (by decide)
  · exact (passes_exponentPart _ _ _ _ _ _ read).cons (by decide)
  · split at read
    · split at read
      · obtain ⟨_, rfl⟩ := Prod.mk.inj (Except.ok.inj read)
        exact Past.refl _
      · obtain ⟨_, rfl⟩ := Prod.mk.inj (Except.ok.inj read)
        exact Past.refl _
    · obtain ⟨_, rfl⟩ := Prod.mk.inj (Except.ok.inj read)
      exact Past.refl _

theorem passes_longEnd (negative : Bool) (significand : Nat) (exponent : Int) :
    Passes (longEnd negative significand exponent) := by
  intro text number rest read
  unfold longEnd at read
  split at read
  · exact (passes_fractionPart _ _ _ _ _ _ read).cons (by decide)
  · exact passes_exponentOrEnd _ _ _ _ _ _ read

theorem passes_unsignedNumber (negative : Bool) : Passes (unsignedNumber negative) := by
  intro text number rest read
  unfold unsignedNumber at read
  split at read
  · cases read
  · split at read
    · cases read
    · exact (passes_wholeEnd _ _ _ _ _ read).cons (by decide)
  · rename_i character later _
    split at read
    · rename_i digit
      have digits := past_moreDigits (digitValue character) 0 later
      refine Past.cons ?_ (ne_quote_of_isDigit digit)
      dsimp only at read
      split at read
      · exact (digits.trans (past_digits _)).trans (passes_longEnd _ _ _ _ _ _ read)
      · exact digits.trans (passes_wholeEnd _ _ _ _ _ read)
    · cases read

theorem passes_numberLiteral : Passes numberLiteral := by
  intro text number rest read
  unfold numberLiteral at read
  split at read
  · exact (passes_unsignedNumber _ _ _ _ read).cons (by decide)
  · exact passes_unsignedNumber _ _ _ _ read

/-! ## String literals -/

theorem scanned_hex {digit : Char} {value : Nat} (hex : hexValue? digit = some value)
    (rest : List Char) : Scanned .string (digit :: rest) .string rest := by
  have noQuote : digit ≠ '"' := by
    rintro rfl
    have none : hexValue? '"' = none := by decide
    rw [none] at hex
    cases hex
  have noEscape : digit ≠ '\\' := by
    rintro rfl
    have none : hexValue? '\\' = none := by decide
    rw [none] at hex
    cases hex
  refine Scanned.cons ?_
  rw [Scan.after, if_neg noQuote, if_neg noEscape]
  exact Scanned.refl _ _

theorem scanned_fourHex {text : List Char} {unit : Nat} (read : fourHex text = .ok unit) :
    Scanned .string text .string (text.drop 4) := by
  unfold fourHex at read
  split at read
  · split at read
    · rename_i one two three four
      exact (scanned_hex one _).trans ((scanned_hex two _).trans
        ((scanned_hex three _).trans (scanned_hex four _)))
    · cases read
  · split at read
    · cases read
    · cases read

theorem scanned_numberedEscape {text : List Char} {character : Char} {length : Nat}
    (read : numberedEscape text = .ok (character, length)) :
    Scanned .string text .string (text.drop length) := by
  unfold numberedEscape at read
  split at read
  · cases read
  · rename_i unit first
    have four := scanned_fourHex first
    split at read
    · cases read
    · split at read
      · obtain ⟨_, rfl⟩ := Prod.mk.inj (Except.ok.inj read)
        exact four
      · split at read
        · cases read
        · cases read
        · rename_i rest pair
          split at read
          · cases read
          · rename_i other second
            split at read
            · cases read
            · obtain ⟨_, rfl⟩ := Prod.mk.inj (Except.ok.inj read)
              have whole : text.drop 10 = rest.drop 4 := by
                have left := congrArg (List.drop 6) pair
                rwa [List.drop_drop] at left
              rw [pair] at four
              rw [whole]
              exact four.trans (Scanned.cons (Scanned.cons (scanned_fourHex second)))
        · cases read
        · cases read

theorem scanned_escape {text : List Char} {character : Char} {length : Nat}
    (read : escape text = .ok (character, length)) :
    Scanned .escaped text .string (text.drop length) := by
  unfold escape at read
  split at read
  case h_10 =>
    obtain ⟨⟨_, written⟩, numbered, same⟩ := exists_of_map_eq_ok read
    obtain ⟨_, rfl⟩ := Prod.mk.inj same
    exact Scanned.cons (scanned_numberedEscape numbered)
  case h_1 => cases read
  case h_11 => cases read
  all_goals
    obtain ⟨_, rfl⟩ := Prod.mk.inj (Except.ok.inj read)
    exact Scanned.cons (Scanned.refl _ _)

theorem scanned_literalFrom {done text rest : List Char} {value : String}
    (read : literalFrom done text = .ok (value, rest)) :
    Scanned .string text .outside rest := by
  fun_induction literalFrom done text with
  | case1 => cases read
  | case2 done after =>
      obtain ⟨_, rfl⟩ := Prod.mk.inj (Except.ok.inj read)
      exact Scanned.cons (Scanned.refl _ _)
  | case3 => cases read
  | case4 done after character length found inductionHypothesis =>
      exact Scanned.cons ((scanned_escape found).trans (inductionHypothesis read))
  | case5 => cases read
  | case6 done character after noQuote noEscape visible inductionHypothesis =>
      refine Scanned.cons ?_
      rw [Scan.after, if_neg noQuote, if_neg noEscape]
      exact inductionHypothesis read

theorem past_stringLiteral {text rest : List Char} {value : String}
    (read : stringLiteral text = .ok (value, rest)) : Past ('"' :: text) rest :=
  Scanned.cons (scanned_literalFrom read)

/-! ## Lists and objects -/

theorem past_colon {text rest : List Char} (read : colon text = .ok rest) : Past text rest := by
  unfold colon at read
  split at read
  · cases read
  · rename_i found
    obtain rfl := Except.ok.inj read
    exact past_of_skipSpace found (past_tail _ (by decide))
  · cases read

theorem past_closeList {text rest : List Char} (read : closeList text = .ok rest) :
    Past text rest := by
  unfold closeList at read
  split at read
  · cases read
  · rename_i found
    obtain rfl := Except.ok.inj read
    exact past_of_skipSpace found (past_tail _ (by decide))
  · split at read
    · cases read
    · cases read
  · cases read

theorem past_closeObject {text rest : List Char} (read : closeObject text = .ok rest) :
    Past text rest := by
  unfold closeObject at read
  split at read
  · cases read
  · rename_i found
    obtain rfl := Except.ok.inj read
    exact past_of_skipSpace found (past_tail _ (by decide))
  · cases read
  · cases read

theorem past_nextItem {isFirst : Bool} {text rest : List Char}
    (read : nextItem isFirst text = .ok (some rest)) : Past text rest := by
  unfold nextItem at read
  split at read
  · cases read
  · cases read
  · rename_i found
    split at read
    · obtain rfl := Option.some.inj (Except.ok.inj read)
      exact past_of_skipSpace found (Past.refl _)
    · split at read
      · rename_i comma
        split at read
        · cases read
        · cases read
        · obtain rfl := Option.some.inj (Except.ok.inj read)
          refine past_of_skipSpace found ((past_skipSpace _).cons ?_)
          rw [comma]
          decide
      · cases read

theorem passes_memberName : Passes memberName := by
  intro text name rest read
  unfold memberName at read
  split at read
  · exact past_stringLiteral read
  · cases read

theorem past_nextMember {isFirst : Bool} {text rest : List Char} {name : String}
    (read : nextMember isFirst text = .ok (some (name, rest))) : Past text rest := by
  unfold nextMember at read
  split at read
  · cases read
  · cases read
  · rename_i found
    split at read
    · obtain ⟨held, named, same⟩ := exists_of_map_eq_ok read
      obtain rfl := Option.some.inj same
      exact past_of_skipSpace found (passes_memberName _ _ _ named)
    · split at read
      · rename_i comma
        split at read
        · cases read
        · cases read
        · obtain ⟨held, named, same⟩ := exists_of_map_eq_ok read
          obtain rfl := Option.some.inj same
          have afterComma := (past_skipSpace _).trans (passes_memberName _ _ _ named)
          refine past_of_skipSpace found (afterComma.cons ?_)
          rw [comma]
          decide
      · cases read

/-! ## Passing over -/

namespace Skip

theorem scanned_escapeLength {text : List Char} {length : Nat}
    (read : escapeLength text = .ok length) : Scanned .escaped text .string (text.drop length) := by
  unfold escapeLength at read
  split at read
  · cases read
  · obtain ⟨_, four, rfl⟩ := exists_of_map_eq_ok read
    exact Scanned.cons (scanned_fourHex four)
  · split at read
    · obtain rfl := Except.ok.inj read
      exact Scanned.cons (Scanned.refl _ _)
    · cases read

theorem scanned_literal {text rest : List Char} (read : literal text = .ok rest) :
    Scanned .string text .outside rest := by
  fun_induction literal text with
  | case1 => cases read
  | case2 after =>
      obtain rfl := Except.ok.inj read
      exact Scanned.cons (Scanned.refl _ _)
  | case3 => cases read
  | case4 after length found inductionHypothesis =>
      exact Scanned.cons ((scanned_escapeLength found).trans (inductionHypothesis read))
  | case5 => cases read
  | case6 character after noQuote noEscape visible inductionHypothesis =>
      refine Scanned.cons ?_
      rw [Scan.after, if_neg noQuote, if_neg noEscape]
      exact inductionHypothesis read

theorem past_literal {text rest : List Char} (read : literal text = .ok rest) :
    Past ('"' :: text) rest :=
  Scanned.cons (scanned_literal read)

theorem past_exponentPart {text rest : List Char} (read : exponentPart text = .ok rest) :
    Past text rest := by
  unfold exponentPart at read
  dsimp only at read
  split at read
  · cases read
  · rename_i first later digits
    split at read
    · rename_i digit
      obtain rfl := Except.ok.inj read
      have after := (past_digits later).cons (ne_quote_of_isDigit digit)
      split at digits
      · exact (digits ▸ after).cons (by decide)
      · exact (digits ▸ after).cons (by decide)
      · exact digits ▸ after
    · cases read

theorem past_exponentOrEnd {text rest : List Char} (read : exponentOrEnd text = .ok rest) :
    Past text rest := by
  unfold exponentOrEnd at read
  split at read
  · exact (past_exponentPart read).cons (by decide)
  · exact (past_exponentPart read).cons (by decide)
  · obtain rfl := Except.ok.inj read
    exact Past.refl _

theorem past_wholeEnd {text rest : List Char} (read : wholeEnd text = .ok rest) :
    Past text rest := by
  unfold wholeEnd at read
  split at read
  · split at read
    · exact ((past_digits _).trans (past_exponentOrEnd read)).cons (by decide)
    · cases read
  · exact past_exponentOrEnd read

theorem past_unsignedNumber {text rest : List Char} (read : unsignedNumber text = .ok rest) :
    Past text rest := by
  unfold unsignedNumber at read
  split at read
  · cases read
  · split at read
    · cases read
    · exact (past_wholeEnd read).cons (by decide)
  · split at read
    · rename_i digit
      exact ((past_digits _).trans (past_wholeEnd read)).cons (ne_quote_of_isDigit digit)
    · cases read

theorem past_scalar {text rest : List Char} (read : scalar text = .ok rest) : Past text rest := by
  unfold scalar at read
  split at read
  · cases read
  · exact (past_word (by decide) read).cons (by decide)
  · exact (past_word (by decide) read).cons (by decide)
  · exact (past_word (by decide) read).cons (by decide)
  · exact past_literal read
  · exact (past_unsignedNumber read).cons (by decide)
  · split at read
    · exact past_unsignedNumber read
    · cases read

theorem past_memberStart {text rest : List Char} (read : memberStart text = .ok rest) :
    Past text rest := by
  unfold memberStart at read
  split at read
  · cases read
  · rename_i found
    split at read
    · cases read
    · rename_i named
      exact past_of_skipSpace found ((past_literal named).trans (past_colon read))
  · cases read

/-- The next part of a frame is a value, behind its name if it is a member. -/
theorem past_entered {frame : Frame} {item : List Char → Except Fault (List Char)}
    {text rest : List Char} (past : ∀ start, item start = .ok rest → Past start rest)
    (read : (match frame with
      | .list => item text
      | .object =>
          match memberStart text with
          | .error fault => .error fault
          | .ok start => item start) = .ok rest) : Past text rest := by
  split at read
  · exact past text read
  · split at read
    · cases read
    · rename_i started
      exact (past_memberStart started).trans (past _ read)

theorem past_frames {next : Next} {opened : List Frame} {steps : Nat} {text rest : List Char}
    (read : frames next opened steps text = .ok rest) : Past text rest := by
  induction steps generalizing next opened text with
  | zero => cases read
  | succ steps inductionHypothesis =>
      unfold frames at read
      split at read
      · split at read
        · rename_i found
          exact past_of_skipSpace found ((inductionHypothesis read).cons (by decide))
        · rename_i found
          exact past_of_skipSpace found ((inductionHypothesis read).cons (by decide))
        · split at read
          · cases read
          · rename_i passed
            exact (past_skipSpace _).trans ((past_scalar passed).trans (inductionHypothesis read))
      · obtain rfl := Except.ok.inj read
        exact Past.refl _
      · rename_i frame outer
        have item : ∀ start, frames .item (frame :: outer) steps start = .ok rest →
            Past start rest := fun _ => inductionHypothesis
        dsimp only at read
        split at read
        · cases read
        · rename_i character inside found
          refine past_of_skipSpace found ?_
          split at read
          · rename_i comma
            simp only [Bool.and_eq_true, decide_eq_true_eq] at comma
            exact (past_entered item read).cons (by simp [comma.1])
          · split at read
            · rename_i close
              simp only [Bool.and_eq_true, decide_eq_true_eq] at close
              exact (inductionHypothesis read).cons (by simp [close.1])
            · split at read
              · rename_i close
                simp only [Bool.and_eq_true, decide_eq_true_eq] at close
                exact (inductionHypothesis read).cons (by simp [close.1])
              · split at read
                · cases read
                · exact past_entered item read

theorem past_value {text rest : List Char} (read : value text = .ok rest) : Past text rest :=
  past_frames read

end Skip

end LibraryScout.Json
