import LibraryScout.Proofs.Text.Lowercase
import Mathlib.Data.List.Basic

/-!
Contract: texts in lower case.

Owns:
- that lower-casing leaves only characters that are their own lower case in every place, so doing it
  twice is doing it once;
- that it neither makes nor takes white space, so a text without white space at its ends stays one;
- that it takes no notice of the case of ASCII letters, those around a capital sigma included.

Does not own: which letters have a lower case.
-/

namespace LibraryScout.Text

/-! ## Twice -/

/-- The lower case of a run meets no letter of another run: it lies apart from that, or its letters
and those of the other take turns. -/
def CaseRun.avoids (run other : CaseRun) : Bool :=
  other.last.blt run.image || (run.apply run.last).blt other.first ||
    (other.step == 2 && (run.step == 2 || run.last == run.first) &&
      run.image % 2 != other.first % 2)

theorem CaseRun.not_contains_apply {run other : CaseRun} (apart : run.avoids other = true)
    {code : Nat} (contained : run.contains code = true) :
    ¬ other.contains (run.apply code) = true := by
  intro again
  obtain ⟨low, high, steps⟩ := (run.contains_iff _).1 contained
  obtain ⟨first, last, otherSteps⟩ := (other.contains_iff _).1 again
  simp only [avoids, apply, Bool.or_eq_true, Bool.and_eq_true, Nat.blt_eq, beq_iff_eq,
    bne_iff_ne] at apart first last otherSteps
  rcases apart with (above | below) | ⟨⟨two, turns⟩, parity⟩
  · omega
  · omega
  · rw [two] at otherSteps
    rcases turns with step | single
    · rw [step] at steps
      omega
    · omega

/-- No letter with a lower case is itself the lower case of another. -/
theorem lowercaseRuns_avoid :
    (lowercaseRuns.all fun run => lowercaseRuns.all run.avoids) = true := by
  decide +kernel

theorem lowercaseRuns_images_ne_dotted : ∀ run ∈ lowercaseRuns,
    run.apply run.last < 'İ'.toNat ∨ 'İ'.toNat < run.image := by
  decide +kernel

theorem isOwnLower_toLower {character : Char} (ascii : character.toNat < 0x80) :
    IsOwnLower character.toLower :=
  forall_ascii (motive := fun character => IsOwnLower character.toLower) (by decide) ascii

theorem isOwnLower_lowerChar {character : Char} (noDotted : character ≠ 'İ') :
    IsOwnLower (lowerChar character) := by
  by_cases ascii : character.toNat < 0x80
  · rw [lowerChar, if_pos ascii]
    exact isOwnLower_toLower ascii
  · have beyond := Nat.not_lt.1 ascii
    rcases lowerChar_cases beyond with same | ⟨run, member, contained, code⟩
    · rw [same]
      exact ⟨same, noDotted⟩
    -- The runs decide nothing about ASCII, where the Kelvin sign has its lower case.
    rcases lowerChar_beyond_or_kay beyond with lowerBeyond | isKay
    · refine ⟨lowerChar_of_noRun lowerBeyond fun other otherMember => ?_, fun isDotted => ?_⟩
      · have avoided := List.all_eq_true.1 lowercaseRuns_avoid run member
        rw [code]
        exact CaseRun.not_contains_apply (List.all_eq_true.1 avoided other otherMember) contained
      · have apart := lowercaseRuns_images_ne_dotted run member
        have between := CaseRun.apply_between contained
        rw [isDotted] at code
        omega
    · rw [isKay]
      decide

theorem isOwnLower_of_mem_lowerImage {before rest : List Char} {character lower : Char}
    (member : lower ∈ lowerImage before character rest) : IsOwnLower lower :=
  forall_mem_lowerImage (by decide) (by decide) isOwnLower_lowerChar before rest lower member

/-- A text in lower case holds only characters that are their own lower case in every place. -/
theorem isOwnLower_of_mem_lowercaseAfter {before text : List Char} {lower : Char}
    (member : lower ∈ lowercaseAfter before text) : IsOwnLower lower := by
  induction text generalizing before with
  | nil => exact absurd member List.not_mem_nil
  | cons character rest inductionHypothesis =>
      rw [lowercaseAfter_cons, List.mem_append] at member
      rcases member with here | later
      · exact isOwnLower_of_mem_lowerImage here
      · exact inductionHypothesis later

theorem lowercaseAfter_of_isOwnLower {text : List Char}
    (own : ∀ character ∈ text, IsOwnLower character) (before : List Char) :
    lowercaseAfter before text = text := by
  induction text generalizing before with
  | nil => rfl
  | cons character rest inductionHypothesis =>
      obtain ⟨here, later⟩ := List.forall_mem_cons.1 own
      rw [lowercaseAfter_cons, here.lowerImage, inductionHypothesis later, List.singleton_append]

theorem IsOwnLower.isUpper_eq_false {character : Char} (own : IsOwnLower character) :
    character.isUpper = false := by
  by_cases ascii : character.toNat < 0x80
  · exact forall_ascii (motive := fun character => IsOwnLower character → character.isUpper = false)
      (by decide) ascii own
  · exact decide_eq_false (noCapital_of_beyond (Nat.not_lt.1 ascii))

/-! ## White space -/

/-- No lower case of a run meets an interval of white space. -/
theorem lowercaseRuns_images_disjoint : ∀ run ∈ lowercaseRuns, ∀ blank ∈ blankRanges,
    run.apply run.last < blank.1 ∨ blank.2 < run.image := by
  decide +kernel

theorem not_isBlank_lowerChar {character : Char} (solid : isBlank character = false) :
    isBlank (lowerChar character) = false := by
  by_cases ascii : character.toNat < 0x80
  · rw [lowerChar, if_pos ascii]
    exact forall_ascii
      (motive := fun character => isBlank character = false → isBlank character.toLower = false)
      (by decide) ascii solid
  · rcases lowerChar_cases (Nat.not_lt.1 ascii) with same | ⟨run, member, contained, code⟩
    · rwa [same]
    · rw [Bool.eq_false_iff]
      intro blank
      obtain ⟨range, blankMember, atLeast, atMost⟩ := (inRanges_iff _ _).1 blank
      have between := CaseRun.apply_between contained
      rcases lowercaseRuns_images_disjoint run member range blankMember with below | above
      · omega
      · omega

theorem not_isBlank_of_mem_lowerImage {before rest : List Char} {character lower : Char}
    (solid : isBlank character = false) (member : lower ∈ lowerImage before character rest) :
    isBlank lower = false :=
  forall_mem_lowerImage (motive := fun lower => isBlank lower = false) (by decide) (by decide)
    (fun _ => not_isBlank_lowerChar solid) before rest lower member

/-- A text without white space at its ends has none there in lower case. -/
theorem Bare.lowercase {text : List Char} (bare : Bare text) : Bare (Text.lowercase text) := by
  refine ⟨?_, ?_, ?_⟩
  · obtain ⟨first, rest, rfl⟩ := List.exists_cons_of_ne_nil bare.nonempty
    rw [Text.lowercase, lowercaseAfter_cons]
    exact List.append_ne_nil_of_left_ne_nil (lowerImage_ne_nil [] first rest) _
  · obtain ⟨first, rest, rfl⟩ := List.exists_cons_of_ne_nil bare.nonempty
    intro character isFirst
    rw [Text.lowercase, lowercaseAfter_cons,
      List.head?_append_of_ne_nil _ (lowerImage_ne_nil [] first rest)] at isFirst
    exact not_isBlank_of_mem_lowerImage (bare.start first rfl) (List.mem_of_mem_head? isFirst)
  · obtain ⟨front, last, rfl⟩ := (List.eq_nil_or_concat' text).resolve_left bare.nonempty
    obtain ⟨lowered, split⟩ := exists_lowercaseAfter_append [] front [last]
    intro character isLast
    have onlyLast : lowercaseAfter (front.reverse ++ []) [last] =
        lowerImage (front.reverse ++ []) last [] := by
      rw [lowercaseAfter_cons, lowercaseAfter, List.append_nil]
    rw [Text.lowercase, split, onlyLast,
      List.getLast?_append_of_ne_nil _ (lowerImage_ne_nil _ last [])] at isLast
    exact not_isBlank_of_mem_lowerImage (bare.finish last (by simp)) (List.mem_of_getLast? isLast)

/-! ## The case of ASCII letters -/

/-- What a class says of the capitals of ASCII and their small letters decides whether it takes
notice of case. -/
theorem inClass_toLower {inClass : Char → Bool}
    (capitals : ∀ code < 0x80, (Char.ofNat code).isUpper = true →
      inClass (Char.ofNat code).toLower = inClass (Char.ofNat code)) (character : Char) :
    inClass character.toLower = inClass character := by
  by_cases ascii : character.toNat < 0x80
  · by_cases capital : character.isUpper = true
    · exact forall_ascii
        (motive := fun character =>
          character.isUpper = true → inClass character.toLower = inClass character)
        capitals ascii capital
    · have same : character.toLower = character :=
        dif_neg (of_decide_eq_false (Bool.eq_false_iff.2 capital))
      rw [same]
  · rw [toLower_of_beyond (Nat.not_lt.1 ascii)]

theorem isBlank_toLower (character : Char) : isBlank character.toLower = isBlank character :=
  inClass_toLower (by decide) character

theorem isCased_toLower (character : Char) :
    inRanges casedRanges character.toLower = inRanges casedRanges character :=
  inClass_toLower (by decide +kernel) character

/-- No interval of ignorable characters meets the letters of ASCII. -/
theorem caseIgnorableRanges_no_letter : ∀ range ∈ caseIgnorableRanges,
    range.2 < 0x41 ∨ 0x5A < range.1 ∧ range.2 < 0x61 ∨ 0x7A < range.1 := by
  decide +kernel

theorem not_isIgnorable_of_letter {character : Char}
    (letter : 0x41 ≤ character.toNat ∧ character.toNat ≤ 0x5A ∨
      0x61 ≤ character.toNat ∧ character.toNat ≤ 0x7A) :
    inRanges caseIgnorableRanges character = false := by
  rw [Bool.eq_false_iff]
  intro ignorable
  obtain ⟨range, member, low, high⟩ := (inRanges_iff _ _).1 ignorable
  have apart := caseIgnorableRanges_no_letter range member
  omega

theorem isIgnorable_toLower (character : Char) :
    inRanges caseIgnorableRanges character.toLower = inRanges caseIgnorableRanges character := by
  have letters : ∀ code < 0x80, (Char.ofNat code).isUpper = true →
      (0x61 ≤ (Char.ofNat code).toLower.toNat ∧ (Char.ofNat code).toLower.toNat ≤ 0x7A) ∧
        0x41 ≤ (Char.ofNat code).toNat ∧ (Char.ofNat code).toNat ≤ 0x5A := by
    decide
  refine inClass_toLower (fun code below capital => ?_) character
  obtain ⟨small, large⟩ := letters code below capital
  rw [not_isIgnorable_of_letter (.inr small), not_isIgnorable_of_letter (.inl large)]

/-- A letter is cased in either case, and none is passed over. -/
theorem startsCased_map_toLower (text : List Char) :
    startsCased (text.map Char.toLower) = startsCased text := by
  have sameClass : inRanges caseIgnorableRanges ∘ Char.toLower = inRanges caseIgnorableRanges :=
    funext isIgnorable_toLower
  rw [startsCased, startsCased, List.dropWhile_map, sameClass]
  cases text.dropWhile (inRanges caseIgnorableRanges) with
  | nil => rfl
  | cons character rest => exact isCased_toLower character

theorem lowerImage_map_toLower (before : List Char) (character : Char) (rest : List Char) :
    lowerImage (before.map Char.toLower) character.toLower (rest.map Char.toLower) =
      lowerImage before character rest := by
  by_cases ascii : character.toNat < 0x80
  · rw [(isOwnLower_toLower ascii).lowerImage, lowerImage_of_ascii ascii]
  · rw [toLower_of_beyond (Nat.not_lt.1 ascii), lowerImage, lowerImage, startsCased_map_toLower,
      startsCased_map_toLower]

theorem lowercaseAfter_map_toLower (before text : List Char) :
    lowercaseAfter (before.map Char.toLower) (text.map Char.toLower) =
      lowercaseAfter before text := by
  induction text generalizing before with
  | nil => rfl
  | cons character rest inductionHypothesis =>
      rw [List.map_cons, lowercaseAfter_cons, lowercaseAfter_cons, lowerImage_map_toLower,
        ← List.map_cons, inductionHypothesis]

theorem trim_map_toLower (text : List Char) :
    trim (text.map Char.toLower) = (trim text).map Char.toLower := by
  have sameClass : isBlank ∘ Char.toLower = isBlank := funext isBlank_toLower
  rw [trim, trimLeft, trimRight, List.dropWhile_map, sameClass, ← List.map_reverse,
    List.dropWhile_map, sameClass, ← List.map_reverse, trim, trimLeft, trimRight]

/-- Texts that are the same but for the case of ASCII letters have the same lower case, also when
they are trimmed. -/
theorem EqualButCase.lowercase_trim {first second : List Char} (alike : EqualButCase first second) :
    lowercase (trim first) = lowercase (trim second) := by
  have folded : ∀ text, lowercase ((trim text).map Char.toLower) = lowercase (trim text) :=
    fun text => lowercaseAfter_map_toLower [] (trim text)
  rw [EqualButCase] at alike
  rw [← folded first, ← trim_map_toLower, alike, trim_map_toLower, folded]

end LibraryScout.Text
