import LibraryScout.Json.Reader

/-!
Contract: the ways to write a string.

Owns:
- `Spelled`, what may be written for one character: the character itself, a short escape, or its
  number in one or two units of four digits in base sixteen;
- `Spells`, what may stand between the quotes of a string;
- that string literals are read as what they spell, and that nothing else is read.

Does not own: which of the spellings a printer chooses.
-/

namespace LibraryScout.Json

/-! ## Spellings of one character -/

/-- Letters behind a backslash with the characters that they stand for. -/
def shortEscapes : List (Char × Char) :=
  [('"', '"'), ('\\', '\\'), ('/', '/'), ('b', '\x08'), ('f', '\x0c'), ('n', '\n'), ('r', '\r'),
   ('t', '\t')]

/-- Four digits in base sixteen, and the number that they write. -/
inductive HexUnit : List Char → Nat → Prop where
  | digits {first second third fourth : Char} {a b c d : Nat}
      (firstValue : hexValue? first = some a) (secondValue : hexValue? second = some b)
      (thirdValue : hexValue? third = some c) (fourthValue : hexValue? fourth = some d) :
      HexUnit [first, second, third, fourth] (((a * 16 + b) * 16 + c) * 16 + d)

/-- What stands behind the backslash of an escape, for a character. -/
inductive Escape : Char → List Char → Prop where
  | short {letter character : Char} (listed : (letter, character) ∈ shortEscapes) :
      Escape character [letter]
  | unit {digits : List Char} {unit : Nat} (hex : HexUnit digits unit)
      (whole : unit < 0xD800 ∨ 0xDFFF < unit) : Escape (Char.ofNat unit) ('u' :: digits)
  | pair {front back : List Char} {high low : Nat} (hexHigh : HexUnit front high)
      (isHigh : 0xD800 ≤ high ∧ high ≤ 0xDBFF) (hexLow : HexUnit back low)
      (isLow : 0xDC00 ≤ low ∧ low ≤ 0xDFFF) :
      Escape (Char.ofNat ((high - 0xD800) * 0x400 + (low - 0xDC00) + 0x10000))
        ('u' :: (front ++ '\\' :: 'u' :: back))

/-- What may be written for a character. -/
inductive Spelled : Char → List Char → Prop where
  | plain {character : Char} (visible : 0x20 ≤ character.toNat) (noQuote : character ≠ '"')
      (noBackslash : character ≠ '\\') : Spelled character [character]
  | escaped {character : Char} {code : List Char} (escape : Escape character code) :
      Spelled character ('\\' :: code)

/-- What may be written for characters one after another. -/
inductive Spells : List Char → List Char → Prop where
  | nil : Spells [] []
  | cons {character : Char} {content spelling body : List Char}
      (here : Spelled character spelling) (later : Spells content body) :
      Spells (character :: content) (spelling ++ body)

/-! ## Reading one character -/

theorem HexUnit.length_eq {digits : List Char} {unit : Nat} (hex : HexUnit digits unit) :
    digits.length = 4 := by
  cases hex
  rfl

theorem HexUnit.fourHex {digits : List Char} {unit : Nat} (hex : HexUnit digits unit)
    (rest : List Char) : Json.fourHex (digits ++ rest) = .ok unit := by
  obtain ⟨firstValue, secondValue, thirdValue, fourthValue⟩ := hex
  simp [Json.fourHex, firstValue, secondValue, thirdValue, fourthValue]

theorem hexUnit_of_fourHex {text : List Char} {unit : Nat} (read : fourHex text = .ok unit) :
    HexUnit (text.take 4) unit := by
  unfold fourHex at read
  split at read
  · split at read
    next firstValue secondValue thirdValue fourthValue =>
      cases read
      exact .digits firstValue secondValue thirdValue fourthValue
    · cases read
  · split at read <;> cases read

theorem Escape.read {character : Char} {code : List Char} (escape : Escape character code)
    (rest : List Char) : Json.escape (code ++ rest) = .ok (character, code.length) := by
  cases escape with
  | short listed =>
      simp only [shortEscapes, List.mem_cons, Prod.mk.injEq, List.not_mem_nil, or_false] at listed
      rcases listed with
        ⟨rfl, rfl⟩ | ⟨rfl, rfl⟩ | ⟨rfl, rfl⟩ | ⟨rfl, rfl⟩ | ⟨rfl, rfl⟩ | ⟨rfl, rfl⟩ |
          ⟨rfl, rfl⟩ | ⟨rfl, rfl⟩ <;> rfl
  | @unit digits unit hex whole =>
      have noLow : ¬ (0xDC00 ≤ unit ∧ unit ≤ 0xDFFF) := by omega
      have noHigh : unit < 0xD800 ∨ 0xDBFF < unit := by omega
      have single : numberedEscape (digits ++ rest) = .ok (Char.ofNat unit, 4) := by
        rw [numberedEscape, hex.fourHex]
        simp only [Bool.and_eq_true, Bool.or_eq_true, decide_eq_true_eq]
        rw [if_neg noLow, if_pos noHigh]
      rw [List.cons_append, Json.escape, single, List.length_cons, hex.length_eq]
      rfl
  | @pair front back high low hexHigh isHigh hexLow isLow =>
      have noLow : ¬ (0xDC00 ≤ high ∧ high ≤ 0xDFFF) := by omega
      have half : ¬ (high < 0xD800 ∨ 0xDBFF < high) := by omega
      have other : ¬ (low < 0xDC00 ∨ 0xDFFF < low) := by omega
      have behind : (front ++ '\\' :: 'u' :: (back ++ rest)).drop 4 =
          '\\' :: 'u' :: (back ++ rest) := by
        rw [← hexHigh.length_eq, List.drop_left]
      have double : numberedEscape (front ++ '\\' :: 'u' :: (back ++ rest)) =
          .ok (Char.ofNat ((high - 0xD800) * 0x400 + (low - 0xDC00) + 0x10000), 10) := by
        rw [numberedEscape, hexHigh.fourHex]
        simp only [Bool.and_eq_true, Bool.or_eq_true, decide_eq_true_eq]
        rw [if_neg noLow, if_neg half, behind]
        simp only [hexLow.fourHex]
        rw [if_neg other]
      have whole : 'u' :: (front ++ '\\' :: 'u' :: back) ++ rest =
          'u' :: (front ++ '\\' :: 'u' :: (back ++ rest)) := by simp
      rw [whole, Json.escape, double]
      simp [hexHigh.length_eq, hexLow.length_eq, Except.map]

theorem length_of_hexUnit_take {text : List Char} {unit : Nat} (hex : HexUnit (text.take 4) unit) :
    4 ≤ text.length := by
  have length := hex.length_eq
  rw [List.length_take] at length
  omega

/-- A pair of units is written over ten characters, each unit over the last four of five. -/
theorem take_pair {text rest : List Char} (behind : text.drop 4 = '\\' :: 'u' :: rest) :
    text.take 10 = text.take 4 ++ '\\' :: 'u' :: rest.take 4 := by
  have split : text.take (4 + 6) = text.take 4 ++ (text.drop 4).take 6 := List.take_add
  rw [split, behind]
  rfl

theorem escape_of_numberedEscape {text : List Char} {character : Char} {length : Nat}
    (read : numberedEscape text = .ok (character, length)) :
    Escape character ('u' :: text.take length) ∧ length ≤ text.length := by
  unfold numberedEscape at read
  split at read
  · cases read
  next unit found =>
    have hex := hexUnit_of_fourHex found
    have atLeast := length_of_hexUnit_take hex
    simp only [Bool.and_eq_true, Bool.or_eq_true, decide_eq_true_eq] at read
    split at read
    · cases read
    next noLow =>
      split at read
      next noHigh =>
        cases read
        exact ⟨.unit hex (by omega), atLeast⟩
      next half =>
        split at read
        · cases read
        · cases read
        next rest behind =>
          split at read
          · cases read
          next second foundSecond =>
            split at read
            · cases read
            next isLow =>
              obtain ⟨rfl, rfl⟩ := Prod.mk.inj (Except.ok.inj read)
              have hexSecond := hexUnit_of_fourHex foundSecond
              have restAtLeast := length_of_hexUnit_take hexSecond
              have long : text.length - 4 = rest.length + 2 := by
                rw [← List.length_drop, behind, List.length_cons, List.length_cons]
              rw [take_pair behind]
              exact ⟨.pair hex (by omega) hexSecond (by omega), by omega⟩
        · cases read
        · cases read

theorem escape_of_read {text : List Char} {character : Char} {length : Nat}
    (read : escape text = .ok (character, length)) :
    Escape character (text.take length) ∧ length ≤ text.length := by
  unfold escape at read
  split at read
  case h_1 => cases read
  case h_10 rest =>
    cases found : numberedEscape rest with
    | error fault => simp [found, Except.map] at read
    | ok escaped =>
        rw [found] at read
        cases read
        obtain ⟨written, atLeast⟩ := escape_of_numberedEscape found
        exact ⟨written, Nat.succ_le_succ atLeast⟩
  case h_11 => cases read
  all_goals
    cases read
    exact ⟨.short (by decide), Nat.succ_le_succ (Nat.zero_le _)⟩

/-! ## Reading strings -/

theorem Spelled.read {character : Char} {spelling : List Char}
    (spelled : Spelled character spelling) (done rest : List Char) :
    literalFrom done (spelling ++ rest) = literalFrom (character :: done) rest := by
  cases spelled with
  | plain visible noQuote noBackslash =>
      rw [List.singleton_append, literalFrom, if_neg (Nat.not_lt.2 visible)]
      · exact noQuote
      · exact noBackslash
  | escaped escape =>
      rw [List.cons_append, literalFrom, escape.read]
      simp

theorem Spells.read {content body : List Char} (spells : Spells content body)
    (done rest : List Char) :
    literalFrom done (body ++ '"' :: rest) =
      .ok (String.ofList (done.reverse ++ content), rest) := by
  induction spells generalizing done with
  | nil => simp [literalFrom]
  | cons here later inductionHypothesis =>
      rw [List.append_assoc, here.read, inductionHypothesis]
      simp

/-- What stands between the quotes of a literal is read as what it spells. -/
theorem stringLiteral_of_spells {text : String} {body : List Char}
    (spells : Spells text.toList body) (rest : List Char) :
    stringLiteral (body ++ '"' :: rest) = .ok (text, rest) := by
  rw [stringLiteral, spells.read]
  simp

theorem exists_spells_of_literalFrom {done text rest : List Char} {value : String}
    (read : literalFrom done text = .ok (value, rest)) :
    ∃ content body, value = String.ofList (done.reverse ++ content) ∧
      text = body ++ '"' :: rest ∧ Spells content body := by
  fun_induction literalFrom done text with
  | case1 => cases read
  | case2 done left =>
      cases read
      exact ⟨[], [], by simp, rfl, .nil⟩
  | case3 => cases read
  | case4 done left character length found inductionHypothesis =>
      obtain ⟨content, body, rfl, whole, spells⟩ := inductionHypothesis read
      obtain ⟨written, -⟩ := escape_of_read found
      refine ⟨character :: content, '\\' :: left.take length ++ body, by simp, ?_,
        .cons (.escaped written) spells⟩
      rw [List.cons_append, List.cons_append, List.append_assoc, ← whole,
        List.take_append_drop]
  | case5 => cases read
  | case6 done character left noQuote noBackslash visible inductionHypothesis =>
      obtain ⟨content, body, rfl, rfl, spells⟩ := inductionHypothesis read
      exact ⟨character :: content, character :: body, by simp, rfl,
        .cons (.plain (Nat.not_lt.1 visible) noQuote noBackslash) spells⟩

/-- Nothing else is read as a string. -/
theorem exists_spells_of_stringLiteral {text rest : List Char} {value : String}
    (read : stringLiteral text = .ok (value, rest)) :
    ∃ body, text = body ++ '"' :: rest ∧ Spells value.toList body := by
  obtain ⟨content, body, rfl, whole, spells⟩ := exists_spells_of_literalFrom read
  exact ⟨body, whole, by simpa using spells⟩

end LibraryScout.Json
