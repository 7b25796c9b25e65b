import LibraryScout.Proofs.Text.Pieces
import LibraryScout.Text.Lowercase

/-!
Contract: what lower-casing leaves of a text.

Owns:
- `lowerImage`, what becomes of one character, and the characters that are their own lower case in
  every place: these stay in a text, and white space is of this kind; so a text whose lower case
  holds no white space holds none itself;
- which characters of ASCII come from ASCII only, and that a text of them is the lower case of those
  texts alone that differ from it in the case of ASCII letters.
-/

namespace LibraryScout.Text

/-! ## One character -/

/-- The lower case of a character between others, of which those before it are held in reverse. -/
def lowerImage (before : List Char) (character : Char) (rest : List Char) : List Char :=
  if character = 'Σ' then
    if startsCased before && !startsCased rest then ['ς'] else ['σ']
  else if character = 'İ' then ['i', '\u0307']
  else [lowerChar character]

theorem lowercaseAfter_cons (before : List Char) (character : Char) (rest : List Char) :
    lowercaseAfter before (character :: rest) =
      lowerImage before character rest ++ lowercaseAfter (character :: before) rest := rfl

theorem lowerImage_ne_nil (before : List Char) (character : Char) (rest : List Char) :
    lowerImage before character rest ≠ [] := by
  unfold lowerImage
  split
  · split <;> simp
  · split <;> simp

/-- What holds of the letters that stand for the two without one fixed lower case, and of the lower
case of a single letter, holds of all that becomes of it. -/
theorem forall_mem_lowerImage {motive : Char → Prop} {character : Char}
    (sigma : motive 'ς' ∧ motive 'σ') (dotted : motive 'i' ∧ motive '\u0307')
    (single : character ≠ 'İ' → motive (lowerChar character)) (before rest : List Char) :
    ∀ lower ∈ lowerImage before character rest, motive lower := by
  unfold lowerImage
  split
  · split
    · exact List.forall_mem_singleton.2 sigma.1
    · exact List.forall_mem_singleton.2 sigma.2
  · split
    · exact List.forall_mem_cons.2 ⟨dotted.1, List.forall_mem_singleton.2 dotted.2⟩
    next noDotted => exact List.forall_mem_singleton.2 (single noDotted)

theorem CaseRun.contains_iff (run : CaseRun) (code : Nat) :
    run.contains code = true ↔
      run.first ≤ code ∧ code ≤ run.last ∧ (code - run.first) % run.step = 0 := by
  simp only [CaseRun.contains, Bool.and_eq_true, decide_eq_true_eq, beq_iff_eq, and_assoc]

theorem CaseRun.apply_between {run : CaseRun} {code : Nat} (contained : run.contains code = true) :
    run.image ≤ run.apply code ∧ run.apply code ≤ run.apply run.last := by
  obtain ⟨low, high, -⟩ := (run.contains_iff code).1 contained
  simp only [apply]
  omega

theorem lowerChar_of_noRun {character : Char} (beyond : 0x80 ≤ character.toNat)
    (noRun : ∀ run ∈ lowercaseRuns, ¬ run.contains character.toNat = true) :
    lowerChar character = character := by
  rw [lowerChar, if_neg (Nat.not_lt.2 beyond), List.find?_eq_none.2 noRun]

/-- The letters of a run have their lower case beyond ASCII, but for the Kelvin sign, which is alone
in its run. -/
theorem lowercaseRuns_images : ∀ run ∈ lowercaseRuns,
    (run.last = run.first ∧ run.image = 'k'.toNat ∨ 0x80 ≤ run.image) ∧
      (run.apply run.last < 0xD800 ∨ 0xDFFF < run.image ∧ run.apply run.last < 0x110000) := by
  decide +kernel

/-- Beyond ASCII the lower case of a letter is read off its run, and that of any other character is
the character. -/
theorem lowerChar_cases {character : Char} (beyond : 0x80 ≤ character.toNat) :
    lowerChar character = character ∨
      ∃ run ∈ lowercaseRuns, run.contains character.toNat = true ∧
        (lowerChar character).toNat = run.apply character.toNat := by
  rw [lowerChar, if_neg (Nat.not_lt.2 beyond)]
  cases found : lowercaseRuns.find? fun run => run.contains character.toNat with
  | none => exact .inl rfl
  | some run =>
      have member := List.mem_of_find?_eq_some found
      have contained := List.find?_some found
      refine .inr ⟨run, member, contained, ?_⟩
      have isChar : (run.apply character.toNat).isValidChar := by
        have valid := (lowercaseRuns_images run member).2
        have between := CaseRun.apply_between contained
        unfold Nat.isValidChar
        omega
      show (Char.ofNat (run.apply character.toNat)).toNat = run.apply character.toNat
      rw [Char.ofNat, dif_pos isChar]
      rfl

theorem lowerChar_beyond_or_kay {character : Char} (beyond : 0x80 ≤ character.toNat) :
    0x80 ≤ (lowerChar character).toNat ∨ lowerChar character = 'k' := by
  rcases lowerChar_cases beyond with same | ⟨run, member, contained, code⟩
  · rw [same]
    exact .inl beyond
  · rcases (lowercaseRuns_images run member).1 with ⟨single, kelvin⟩ | imageBeyond
    · obtain ⟨low, high, -⟩ := (run.contains_iff _).1 contained
      rw [CaseRun.apply] at code
      exact .inr (Char.toNat_inj.1 (by omega))
    · have between := CaseRun.apply_between contained
      exact .inl (by omega)

/-- A character that is its own lower case in every place. -/
def IsOwnLower (character : Char) : Prop :=
  lowerChar character = character ∧ character ≠ 'İ'

instance (character : Char) : Decidable (IsOwnLower character) :=
  inferInstanceAs (Decidable (lowerChar character = character ∧ character ≠ 'İ'))

theorem IsOwnLower.lowerImage {character : Char} (own : IsOwnLower character)
    (before rest : List Char) : Text.lowerImage before character rest = [character] := by
  have noSigma : character ≠ 'Σ' := by
    rintro rfl
    exact absurd own (by decide)
  rw [Text.lowerImage, if_neg noSigma, if_neg own.2, own.1]

/-- A character that is its own lower case in every place stays in a text. -/
theorem mem_lowercaseAfter {character : Char} (own : IsOwnLower character)
    {before text : List Char} (member : character ∈ text) :
    character ∈ lowercaseAfter before text := by
  induction text generalizing before with
  | nil => exact absurd member List.not_mem_nil
  | cons first rest inductionHypothesis =>
      rw [lowercaseAfter_cons, List.mem_append]
      rcases List.mem_cons.1 member with rfl | later
      · left
        rw [own.lowerImage]
        exact List.mem_singleton_self character
      · exact Or.inr (inductionHypothesis later)

/-! ## White space -/

/-- No run of letters with a lower case meets an interval of white space. -/
theorem lowercaseRuns_disjoint : ∀ run ∈ lowercaseRuns, ∀ blank ∈ blankRanges,
    run.last < blank.1 ∨ blank.2 < run.first := by
  decide +kernel

theorem isOwnLower_of_isBlank {character : Char} (blank : isBlank character = true) :
    IsOwnLower character := by
  refine ⟨?_, by rintro rfl; exact absurd blank (by decide)⟩
  by_cases ascii : character.toNat < 0x80
  · exact forall_ascii
      (motive := fun character => isBlank character = true → lowerChar character = character)
      (by decide) ascii blank
  · refine lowerChar_of_noRun (Nat.not_lt.1 ascii) fun run member contains => ?_
    obtain ⟨range, blankMember, low, high⟩ := (inRanges_iff _ _).1 blank
    obtain ⟨first, last, -⟩ := (run.contains_iff _).1 contains
    rcases lowercaseRuns_disjoint run member range blankMember with below | above
    · omega
    · omega

/-- White space stays in a text that is put into lower case. -/
theorem mem_lowercased_of_isBlank {text : String} {character : Char}
    (blank : isBlank character = true) (member : character ∈ text.toList) :
    character ∈ (lowercased text).toList := by
  rw [lowercased, String.toList_ofList]
  exact mem_lowercaseAfter (isOwnLower_of_isBlank blank) member

/-- There is nothing to trim off a text whose lower case holds no white space. -/
theorem trimmed_of_lowercased {text : String}
    (solid : ∀ character ∈ (lowercased text).toList, isBlank character = false) :
    trimmed text = text := by
  have noBlank : ∀ character ∈ text.toList, isBlank character = false := by
    intro character member
    rw [Bool.eq_false_iff]
    intro blank
    rw [solid character (mem_lowercased_of_isBlank blank member)] at blank
    cases blank
  have whole : trim text.toList = text.toList :=
    trim_eq_self (fun _ isFirst => noBlank _ (List.mem_of_mem_head? isFirst))
      fun _ isLast => noBlank _ (List.mem_of_getLast? isLast)
  rw [trimmed, whole, String.ofList_toList]

/-! ## Letters of ASCII -/

/-- Texts that are the same but for the case of ASCII letters. -/
def EqualButCase (first second : List Char) : Prop :=
  first.map Char.toLower = second.map Char.toLower

instance (first second : List Char) : Decidable (EqualButCase first second) :=
  inferInstanceAs (Decidable (first.map Char.toLower = second.map Char.toLower))

/-- A character of ASCII that is the lower case of characters of ASCII only. The small i is also a
part of that of the dotted capital I, and the small k is that of the Kelvin sign. -/
def isOwnAscii (character : Char) : Bool :=
  character.toNat < 0x80 && character ≠ 'i' && character ≠ 'k'

/-- What stands behind a part of a text keeps its own lower case there. -/
theorem exists_lowercaseAfter_append (before first second : List Char) :
    ∃ front, lowercaseAfter before (first ++ second) =
      front ++ lowercaseAfter (first.reverse ++ before) second := by
  induction first generalizing before with
  | nil => exact ⟨[], rfl⟩
  | cons character later inductionHypothesis =>
      obtain ⟨front, split⟩ := inductionHypothesis (character :: before)
      refine ⟨lowerImage before character (later ++ second) ++ front, ?_⟩
      rw [List.cons_append, lowercaseAfter_cons, split, List.reverse_cons, List.append_assoc,
        List.append_assoc, List.singleton_append]

theorem not_isOwnAscii_lowerChar {character : Char} (beyond : 0x80 ≤ character.toNat) :
    isOwnAscii (lowerChar character) = false := by
  rcases lowerChar_beyond_or_kay beyond with lowerBeyond | isKay
  · simp [isOwnAscii, Nat.not_lt.2 lowerBeyond]
  · rw [isKay]
    rfl

theorem lowerImage_of_ascii {character : Char} (ascii : character.toNat < 0x80)
    (before rest : List Char) : lowerImage before character rest = [character.toLower] := by
  have noSigma : character ≠ 'Σ' := by
    rintro rfl
    exact absurd ascii (by decide)
  have noDotted : character ≠ 'İ' := by
    rintro rfl
    exact absurd ascii (by decide)
  rw [lowerImage, if_neg noSigma, if_neg noDotted, lowerChar, if_pos ascii]

/-- A character beyond ASCII leaves no character that comes from ASCII only. -/
theorem lowerImage_of_beyond {character : Char} (beyond : 0x80 ≤ character.toNat)
    (before rest : List Char) :
    ∀ lower ∈ lowerImage before character rest, isOwnAscii lower = false :=
  forall_mem_lowerImage (by decide) (by decide) (fun _ => not_isOwnAscii_lowerChar beyond)
    before rest

theorem noCapital_of_beyond {character : Char} (beyond : 0x80 ≤ character.toNat) :
    ¬ (character.val ≥ 'A'.val ∧ character.val ≤ 'Z'.val) := by
  rintro ⟨-, atMost⟩
  have small : character.toNat ≤ 'Z'.toNat := atMost
  have capital : 'Z'.toNat < 0x80 := by decide
  omega

theorem toLower_of_beyond {character : Char} (beyond : 0x80 ≤ character.toNat) :
    character.toLower = character :=
  dif_neg (noCapital_of_beyond beyond)

/-- A text of characters that come from ASCII only is the lower case of just those texts that differ
from it in the case of their ASCII letters. -/
theorem lowercaseAfter_eq_iff {lower : List Char}
    (own : ∀ character ∈ lower, isOwnAscii character = true) (before text : List Char) :
    lowercaseAfter before text = lower ↔ text.map Char.toLower = lower := by
  induction text generalizing before lower with
  | nil => rfl
  | cons character rest inductionHypothesis =>
      rw [lowercaseAfter_cons, List.map_cons]
      by_cases ascii : character.toNat < 0x80
      · rw [lowerImage_of_ascii ascii, List.singleton_append]
        cases lower with
        | nil => simp
        | cons first others =>
            rw [List.cons.injEq, List.cons.injEq,
              inductionHypothesis fun other member => own other (List.mem_cons_of_mem first member)]
      · have beyond := Nat.not_lt.1 ascii
        have foreign := lowerImage_of_beyond beyond before rest
        obtain ⟨first, others, image⟩ :=
          List.exists_cons_of_ne_nil (lowerImage_ne_nil before character rest)
        rw [image] at foreign ⊢
        constructor
        · rintro rfl
          have isOwn := own first (by simp)
          rw [foreign first List.mem_cons_self] at isOwn
          cases isOwn
        · rintro rfl
          have isOwn := own character.toLower (by simp)
          rw [toLower_of_beyond beyond, isOwnAscii] at isOwn
          simp [ascii] at isOwn

theorem toLower_toLower (character : Char) : character.toLower.toLower = character.toLower := by
  by_cases ascii : character.toNat < 0x80
  · exact forall_ascii (motive := fun character => character.toLower.toLower = character.toLower)
      (by decide) ascii
  · rw [toLower_of_beyond (Nat.not_lt.1 ascii), toLower_of_beyond (Nat.not_lt.1 ascii)]

theorem isOwnAscii_of_toLower {character : Char} (own : isOwnAscii character.toLower = true) :
    isOwnAscii character = true := by
  by_cases ascii : character.toNat < 0x80
  · exact forall_ascii
      (motive := fun other => isOwnAscii other.toLower = true → isOwnAscii other = true)
      (by decide) ascii own
  · rwa [toLower_of_beyond (Nat.not_lt.1 ascii)] at own

/-- Lower-casing leaves no trace in what a text is but for the case of ASCII letters, if that is
made of characters that come from ASCII only. -/
theorem map_toLower_lowercaseAfter_eq_iff {lower : List Char}
    (own : ∀ character ∈ lower, isOwnAscii character = true) (before text : List Char) :
    (lowercaseAfter before text).map Char.toLower = lower ↔ text.map Char.toLower = lower := by
  have twice : ∀ text : List Char, (text.map Char.toLower).map Char.toLower =
      text.map Char.toLower := by
    intro text
    rw [List.map_map]
    exact List.map_congr_left fun character _ => toLower_toLower character
  constructor
  · intro isLower
    have between : ∀ character ∈ lowercaseAfter before text, isOwnAscii character = true :=
      fun character member => isOwnAscii_of_toLower
        (own character.toLower (isLower ▸ List.mem_map_of_mem member))
    have alike := (lowercaseAfter_eq_iff between before text).1 rfl
    rw [← isLower, ← alike, twice]
  · intro isLower
    rw [(lowercaseAfter_eq_iff own before text).2 isLower, ← isLower, twice]

/-- A mark that is no letter comes from itself only. -/
theorem mem_of_mem_lowercaseAfter {mark : Char} (own : isOwnAscii mark = true)
    (noLetter : ∀ character : Char, character.toLower = mark → character = mark)
    {before text : List Char} (member : mark ∈ lowercaseAfter before text) : mark ∈ text := by
  induction text generalizing before with
  | nil => exact absurd member List.not_mem_nil
  | cons character rest inductionHypothesis =>
      rw [lowercaseAfter_cons, List.mem_append] at member
      rcases member with here | later
      · by_cases ascii : character.toNat < 0x80
        · rw [lowerImage_of_ascii ascii, List.mem_singleton] at here
          rw [noLetter character here.symm]
          exact List.mem_cons_self
        · have foreign := lowerImage_of_beyond (Nat.not_lt.1 ascii) before rest mark here
          rw [own] at foreign
          cases foreign
      · exact List.mem_cons_of_mem character (inductionHypothesis later)

end LibraryScout.Text
