import LibraryScout.Host.Domain
import LibraryScout.Host.Ipv6
import LibraryScout.Proofs.Text.Pieces

/-!
Contract: the characters of hosts as they are written.

Owns:
- that Punycode adds nothing but letters, digits and hyphens;
- that no name in ASCII holds a character that `Domain.isDenied` names, and no address does either,
  apart from the colons between the pieces of an IPv6 address.

Those are the characters that separate the parts of a URL, so a host can be told from what stands
around it.

Does not own: which hosts there are.
-/

namespace LibraryScout.Host

/-! ## Punycode -/

namespace Punycode

def IsDigit (character : Char) : Prop :=
  ∃ digit < 36, character = digitChar digit

theorem isDigit_of_mem_digits {bias position distance : Nat} {character : Char}
    (member : character ∈ digits bias position distance) : IsDigit character := by
  fun_induction digits with
  | case1 position distance limit small =>
      obtain rfl := List.mem_singleton.1 member
      have bounds := threshold_bounds position bias
      exact ⟨distance, by omega, rfl⟩
  | case2 position distance limit large inductionHypothesis =>
      rcases List.mem_cons.1 member with rfl | later
      · have bounds := threshold_bounds position bias
        have rest : (distance - limit) % (36 - limit) < 36 - limit := Nat.mod_lt _ (by omega)
        exact ⟨_, by omega, rfl⟩
      · exact inductionHypothesis later

def Writing.IsDigits (state : Writing) : Prop :=
  ∀ character ∈ state.written, IsDigit character

theorem Writing.isDigits_pass {state : Writing} (digits : state.IsDigits) (basic code : Nat)
    (character : Char) : (state.pass basic code character).IsDigits := by
  unfold Writing.pass
  split
  · exact digits
  · split
    · intro written member
      rcases List.mem_append.1 member with before | now
      · exact digits written before
      · exact isDigit_of_mem_digits now
    · exact digits

theorem Writing.isDigits_foldl_pass {state : Writing} (digits : state.IsDigits) (basic code : Nat)
    (label : List Char) : (label.foldl (Writing.pass basic code) state).IsDigits := by
  induction label generalizing state with
  | nil => exact digits
  | cons character later inductionHypothesis =>
      exact inductionHypothesis (isDigits_pass digits basic code character)

theorem isDigits_writeCodes {state : Writing} (digits : state.IsDigits) (label : List Char)
    (basic next : Nat) (codes : List Nat) :
    (writeCodes label basic next state codes).IsDigits := by
  induction codes generalizing next state with
  | nil => exact digits
  | cons code later inductionHypothesis =>
      rw [writeCodes]
      refine inductionHypothesis ?_ (code + 1)
      exact Writing.isDigits_foldl_pass (by exact digits) basic code label

/-- A written label holds characters of the label, hyphens and digits. -/
theorem mem_encode {label : List Char} {character : Char} (member : character ∈ encode label) :
    character ∈ label ∨ character = '-' ∨ IsDigit character := by
  unfold encode at member
  rcases List.mem_append.1 member with front | digit
  · rcases List.mem_append.1 front with basic | hyphen
    · exact .inl (List.mem_filter.1 basic).1
    · split at hyphen
      · exact absurd hyphen List.not_mem_nil
      · exact .inr (.inl (List.mem_singleton.1 hyphen))
  · have start : Writing.IsDigits ⟨[], 0, 72, (label.filter fun c => c.toNat < 128).length⟩ :=
      fun _ nothing => absurd nothing List.not_mem_nil
    exact .inr (.inr (isDigits_writeCodes start _ _ _ _ character digit))

end Punycode

/-! ## Names -/

namespace Domain

theorem not_mem_of_not_isDenied {marks : String} (denied : marks.toList.all isDenied = true)
    {character : Char} (allowed : isDenied character = false) : character ∉ marks.toList := by
  intro member
  have isMark := List.all_eq_true.1 denied character member
  rw [allowed] at isMark
  exact Bool.noConfusion isMark

theorem isDenied_of_isDigit {character : Char} (digit : Punycode.IsDigit character) :
    isDenied character = false := by
  obtain ⟨value, small, rfl⟩ := digit
  revert value
  decide

/-- A label without denied characters is written without them. -/
theorem not_isDenied_of_writeLabel? {label written : List Char}
    (found : writeLabel? label = some written)
    (allowed : ∀ character ∈ label, isDenied character = false) :
    ∀ character ∈ written, isDenied character = false := by
  unfold writeLabel? at found
  split at found
  · obtain rfl := Option.some.inj found
    exact allowed
  · split at found
    · cases found
    · obtain rfl := Option.some.inj found
      intro character member
      rcases List.mem_append.1 member with front | encoded
      · have prefixAllowed : asciiPrefix.all (fun letter => !isDenied letter) = true := by decide
        simpa using List.all_eq_true.1 prefixAllowed character front
      · rcases Punycode.mem_encode encoded with own | rfl | digit
        · exact allowed character own
        · rfl
        · exact isDenied_of_isDigit digit

theorem exists_of_mem_mapM {α β : Type} {read : α → Option β} {values : List α}
    {results : List β} (all : values.mapM read = some results) {result : β}
    (member : result ∈ results) : ∃ value ∈ values, read value = some result := by
  induction values generalizing results with
  | nil =>
      obtain rfl : [] = results := by simpa using all
      exact absurd member List.not_mem_nil
  | cons first later inductionHypothesis =>
      simp only [List.mapM_cons, Option.bind_eq_bind, Option.bind_eq_some_iff] at all
      obtain ⟨found, readFirst, others, readLater, same⟩ := all
      obtain rfl := Option.some.inj same
      rcases List.mem_cons.1 member with rfl | inLater
      · exact ⟨first, List.mem_cons_self, readFirst⟩
      · obtain ⟨value, valueLater, readValue⟩ := inductionHypothesis readLater inLater
        exact ⟨value, List.mem_cons_of_mem first valueLater, readValue⟩

/-- A name in ASCII holds no denied characters. -/
theorem not_isDenied_of_toAscii? {name written : List Char} (found : toAscii? name = some written) :
    ∀ character ∈ written, isDenied character = false := by
  simp only [toAscii?, Option.bind_eq_bind, Option.bind_eq_some_iff,
    Option.ite_none_left_eq_some, Option.pure_def, Option.some.injEq] at found
  obtain ⟨_, _, _, labels, _, allowed, _, writtenLabels, all, rfl⟩ := found
  intro character member
  rcases Text.mem_or_eq_of_mem_intercalate member with rfl | ⟨part, partMember, inPart⟩
  · rfl
  · obtain ⟨label, labelMember, readLabel⟩ := exists_of_mem_mapM all partMember
    refine not_isDenied_of_writeLabel? readLabel ?_ character inPart
    intro letter letterMember
    refine Bool.eq_false_iff.2 fun denied => allowed ?_
    exact List.any_eq_true.2 ⟨label, labelMember, List.any_eq_true.2 ⟨letter, letterMember, denied⟩⟩

end Domain

/-! ## Addresses -/

/-- A digit of a number in a base up to sixteen. -/
def IsNumeral (character : Char) : Prop :=
  ∃ digit < 16, character = Nat.digitChar digit

theorem isDenied_of_isNumeral {character : Char} (numeral : IsNumeral character) :
    Domain.isDenied character = false := by
  obtain ⟨digit, small, rfl⟩ := numeral
  revert digit
  decide

theorem isNumeral_of_mem_toDigits {base : Nat} (some : 1 < base) (small : base ≤ 16)
    {number : Nat} {character : Char} (member : character ∈ Nat.toDigits base number) :
    IsNumeral character := by
  induction number using Nat.strongRecOn with
  | ind number inductionHypothesis =>
      by_cases last : number < base
      · rw [Nat.toDigits_of_lt_base last, List.mem_singleton] at member
        exact ⟨number, by omega, member⟩
      · have more : base ≤ number := Nat.not_lt.1 last
        rw [Nat.toDigits_of_base_le some more, List.mem_append, List.mem_singleton] at member
        rcases member with front | rfl
        · exact inductionHypothesis _ (Nat.div_lt_self (by omega) some) front
        · have rest : number % base < base := Nat.mod_lt _ (by omega)
          exact ⟨number % base, by omega, rfl⟩

theorem isNumeral_of_mem_toString {number : Nat} {character : Char}
    (member : character ∈ (toString number).toList) : IsNumeral character := by
  rw [Nat.toString_eq_ofList_toDigits, String.toList_ofList] at member
  exact isNumeral_of_mem_toDigits (by decide) (by decide) member

theorem Ipv4.not_isDenied_text (value : Nat) :
    ∀ character ∈ (text value).toList, Domain.isDenied character = false := by
  intro character member
  rw [text, Text.joined, String.toList_intercalate] at member
  rcases Text.mem_or_eq_of_mem_intercalate member with rfl | ⟨part, partMember, inPart⟩
  · rfl
  · simp only [List.mem_map] at partMember
    obtain ⟨_, ⟨_, _, rfl⟩, rfl⟩ := partMember
    exact isDenied_of_isNumeral (isNumeral_of_mem_toString inPart)

theorem Ipv6.mem_joined_hexText {pieces : List Nat} {character : Char}
    (member : character ∈ (Text.joined ":" (pieces.map hexText)).toList) :
    character = ':' ∨ IsNumeral character := by
  rw [Text.joined, String.toList_intercalate] at member
  rcases Text.mem_or_eq_of_mem_intercalate member with same | ⟨part, partMember, inPart⟩
  · exact .inl same
  · simp only [List.mem_map] at partMember
    obtain ⟨_, ⟨piece, _, rfl⟩, rfl⟩ := partMember
    rw [hexText, String.toList_ofList] at inPart
    exact .inr (isNumeral_of_mem_toDigits (by decide) (by decide) inPart)

/-- An address of pieces holds nothing but hexadecimal digits and colons. -/
theorem Ipv6.mem_text {pieces : List Nat} {character : Char}
    (member : character ∈ (text pieces).toList) : character = ':' ∨ IsNumeral character := by
  unfold text at member
  dsimp only at member
  split at member
  · exact mem_joined_hexText member
  · simp only [String.toList_append, List.mem_append] at member
    rcases member with (front | colons) | back
    · exact mem_joined_hexText front
    · exact .inl (by simpa using colons)
    · exact mem_joined_hexText back

end LibraryScout.Host
