import LibraryScout.Charset.Utf8

/-!
Contract: reading the bytes of a text gives back that text.

Owns:
- what a leading byte opens, and how the bytes after it complete a character;
- that a text in UTF-8 is read without a fault.

The invariant of an open character is that its value is the one that is being read, without as many
groups of six bits as bytes are missing.

Does not own: what stands for bytes that are no text.
-/

namespace LibraryScout.Charset

namespace Utf8

/-! ## Bytes after the first -/

/-- The byte that holds the last six bits of a value. -/
def tail (value : Nat) : UInt8 :=
  UInt8.ofNat (value % 64 + 0x80)

/-- A value without its last groups of six bits. -/
def dropGroups (code : Nat) : Nat → Nat
  | 0 => code
  | count + 1 => dropGroups code count / 64

/-- The bytes that hold the last groups of six bits of a value. -/
def tails (code : Nat) : Nat → List UInt8
  | 0 => []
  | count + 1 => tail (dropGroups code count) :: tails code count

theorem toNat_tail (value : Nat) : (tail value).toNat = value % 64 + 0x80 := by
  have small : value % 64 < 64 := Nat.mod_lt value (by decide)
  exact UInt8.toNat_ofNat_of_lt' (show value % 64 + 0x80 < 256 by omega)

section

variable {opened : Open} {byte : UInt8}
  (inRange : opened.low ≤ byte.toNat ∧ byte.toNat ≤ opened.high) (later : List UInt8)

include inRange

theorem decodeFrom_of_last (last : opened.missing = 1) :
    decodeFrom (some opened) (byte :: later) =
      Char.ofNat (opened.value * 64 + (byte.toNat - 0x80)) :: decodeFrom none later := by
  simp only [decodeFrom, next, if_pos inRange, if_pos last]
  rfl

theorem decodeFrom_of_missing (more : opened.missing ≠ 1) :
    decodeFrom (some opened) (byte :: later) =
      decodeFrom (some ⟨opened.value * 64 + (byte.toNat - 0x80), opened.missing - 1, 0x80, 0xBF⟩)
        later := by
  simp only [decodeFrom, next, if_pos inRange, if_neg more]
  rfl

end

/-- A value without some groups, and with the last of them again. -/
theorem dropGroups_succ (code count : Nat) :
    dropGroups code (count + 1) * 64 + dropGroups code count % 64 = dropGroups code count :=
  Nat.div_add_mod' (dropGroups code count) 64

/-- An open character is completed by the bytes of its value that are missing. -/
theorem decodeFrom_tails {code count low high : Nat}
    (inRange : low ≤ dropGroups code count % 64 + 0x80 ∧ dropGroups code count % 64 + 0x80 ≤ high)
    (later : List UInt8) :
    decodeFrom (some ⟨dropGroups code (count + 1), count + 1, low, high⟩)
        (tails code (count + 1) ++ later) =
      Char.ofNat code :: decodeFrom none later := by
  induction count generalizing low high with
  | zero =>
      rw [tails, List.cons_append, decodeFrom_of_last (by rwa [toNat_tail]) _ rfl, toNat_tail,
        Nat.add_sub_cancel, dropGroups_succ]
      rfl
  | succ count inductionHypothesis =>
      have more : count + 1 + 1 ≠ 1 := by omega
      have small : dropGroups code count % 64 < 64 := Nat.mod_lt _ (by decide)
      rw [tails, List.cons_append, decodeFrom_of_missing (by rwa [toNat_tail]) _ more, toNat_tail,
        Nat.add_sub_cancel, dropGroups_succ]
      exact inductionHypothesis ⟨by omega, by omega⟩

/-! ## The first byte -/

/-- A byte opens a character: all but the last groups of bits of its value are in it, and the next
group lies in the range that it leaves. -/
def Opens (byte : UInt8) (code count : Nat) : Prop :=
  ∃ low high, start byte.toNat = .opened ⟨dropGroups code (count + 1), count + 1, low, high⟩ ∧
    low ≤ dropGroups code count % 64 + 0x80 ∧ dropGroups code count % 64 + 0x80 ≤ high

theorem Opens.decodeFrom {byte : UInt8} {code count : Nat} (opens : Opens byte code count)
    (later : List UInt8) :
    Utf8.decodeFrom none (byte :: (tails code (count + 1) ++ later)) =
      Char.ofNat code :: Utf8.decodeFrom none later := by
  obtain ⟨low, high, opened, inRange⟩ := opens
  rw [Utf8.decodeFrom, next, begin, opened]
  exact decodeFrom_tails inRange later

/-- A leading byte is a mark for the number of bytes with the first bits of a value. -/
theorem toNat_lead {value size mark : Nat} (small : value < size) (room : size + mark ≤ 256) :
    (UInt8.ofNat (value % size + mark)).toNat = value + mark := by
  rw [Nat.mod_eq_of_lt small]
  exact UInt8.toNat_ofNat_of_lt' (show value + mark < 256 by omega)

section

variable {code : Nat}

theorem opens_of_two (long : 0x7F < code) (short : code ≤ 0x7FF) :
    Opens (UInt8.ofNat (code / 64 % 32 + 0xC0)) code 0 := by
  have lead := toNat_lead (show code / 64 < 32 by omega) (show 32 + 0xC0 ≤ 256 by decide)
  simp only [Opens, dropGroups]
  refine ⟨0x80, 0xBF, ?_, by omega, by omega⟩
  rw [lead, start, if_neg (by omega), if_pos (by omega), Nat.add_sub_cancel]

/-- The leading bytes `E0` and `ED` leave less room: what is shorter has a shorter form, and the
codes of surrogates are no characters. -/
theorem opens_of_three (long : 0x7FF < code) (short : code ≤ 0xFFFF)
    (noSurrogate : code < 0xD800 ∨ 0xDFFF < code) :
    Opens (UInt8.ofNat (code / 64 / 64 % 16 + 0xE0)) code 1 := by
  have lead := toNat_lead (show code / 64 / 64 < 16 by omega) (show 16 + 0xE0 ≤ 256 by decide)
  simp only [Opens, dropGroups]
  rw [lead, start, if_neg (by omega), if_neg (by omega)]
  by_cases least : code / 64 / 64 = 0
  · rw [if_pos (by omega), least]
    exact ⟨0xA0, 0xBF, rfl, by omega, by omega⟩
  · rw [if_neg (by omega)]
    by_cases surrogates : code / 64 / 64 = 0xD
    · rw [if_pos (by omega), surrogates]
      exact ⟨0x80, 0x9F, rfl, by omega, by omega⟩
    · rw [if_neg (by omega), if_pos (by omega), Nat.add_sub_cancel]
      exact ⟨0x80, 0xBF, rfl, by omega, by omega⟩

/-- The leading bytes `F0` and `F4` leave less room: what is shorter has a shorter form, and there
is a last character. -/
theorem opens_of_four (long : 0xFFFF < code) (last : code ≤ 0x10FFFF) :
    Opens (UInt8.ofNat (code / 64 / 64 / 64 % 8 + 0xF0)) code 2 := by
  have lead := toNat_lead (show code / 64 / 64 / 64 < 8 by omega) (show 8 + 0xF0 ≤ 256 by decide)
  simp only [Opens, dropGroups]
  rw [lead, start, if_neg (by omega), if_neg (by omega), if_neg (by omega), if_neg (by omega),
    if_neg (by omega)]
  by_cases least : code / 64 / 64 / 64 = 0
  · rw [if_pos (by omega), least]
    exact ⟨0x90, 0xBF, rfl, by omega, by omega⟩
  · rw [if_neg (by omega)]
    by_cases most : code / 64 / 64 / 64 = 4
    · rw [if_neg (by omega), if_pos (by omega), most]
      exact ⟨0x80, 0x8F, rfl, by omega, by omega⟩
    · rw [if_pos (by omega), Nat.add_sub_cancel]
      exact ⟨0x80, 0xBF, rfl, by omega, by omega⟩

end

/-! ## Texts -/

theorem decodeFrom_of_ascii {byte : UInt8} (ascii : byte.toNat < 0x80) (later : List UInt8) :
    decodeFrom none (byte :: later) = Char.ofNat byte.toNat :: decodeFrom none later := by
  rw [decodeFrom, next, begin, start, if_pos ascii]
  rfl

/-- The bytes of a character, by its code. -/
theorem utf8EncodeChar_eq (character : Char) :
    String.utf8EncodeChar character =
      let code := character.toNat
      if code ≤ 0x7F then [UInt8.ofNat code]
      else if code ≤ 0x7FF then UInt8.ofNat (code / 64 % 32 + 0xC0) :: tails code 1
      else if code ≤ 0xFFFF then UInt8.ofNat (code / 64 / 64 % 16 + 0xE0) :: tails code 2
      else UInt8.ofNat (code / 64 / 64 / 64 % 8 + 0xF0) :: tails code 3 := by
  simp only [tails, tail, dropGroups, Nat.div_div_eq_div_mul]
  rfl

/-- The bytes of a character are read as that character, and leave nothing open. -/
theorem decodeFrom_utf8EncodeChar (character : Char) (later : List UInt8) :
    decodeFrom none (String.utf8EncodeChar character ++ later) =
      character :: decodeFrom none later := by
  have valid : character.toNat < 0xD800 ∨ 0xDFFF < character.toNat ∧ character.toNat < 0x110000 :=
    character.valid
  suffices read : decodeFrom none (String.utf8EncodeChar character ++ later) =
      Char.ofNat character.toNat :: decodeFrom none later by
    rwa [Char.ofNat_toNat] at read
  rw [utf8EncodeChar_eq]
  dsimp only
  -- one case for each number of bytes
  split
  next ascii =>
    have byte : (UInt8.ofNat character.toNat).toNat = character.toNat :=
      UInt8.toNat_ofNat_of_lt' (show character.toNat < 256 by omega)
    rw [List.singleton_append, decodeFrom_of_ascii (by omega), byte]
  next notOne =>
    split
    next two => exact (opens_of_two (by omega) two).decodeFrom later
    next notTwo =>
      split
      next three => exact (opens_of_three (by omega) three (by omega)).decodeFrom later
      next notThree => exact (opens_of_four (by omega) (by omega)).decodeFrom later

theorem decodeUtf8_flatMap_utf8EncodeChar (text : List Char) :
    decodeUtf8 (text.flatMap String.utf8EncodeChar) = text := by
  unfold decodeUtf8
  induction text with
  | nil => rfl
  | cons character later inductionHypothesis =>
      rw [List.flatMap_cons, decodeFrom_utf8EncodeChar, inductionHypothesis]

end Utf8

end LibraryScout.Charset
