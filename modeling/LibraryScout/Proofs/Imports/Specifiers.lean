import LibraryScout.Imports.JavaScript
import LibraryScout.Proofs.Text.Anywhere
import LibraryScout.Proofs.Text.Pieces

/-!
Contract: the modules of a JavaScript source are exactly those of its calls and import clauses.

Owns:
- `CallStart` and `ClauseStart`, the two forms as texts, stated without what reads them;
- a call that starts inside another one has a specifier that names no module;
- all readings of a clause have the same specifier, however its bindings are told apart from the
  white space around them;
- the exact modules of a source.

A call holds a further call only where its specifier ends with the word. The closing quote of the
outer call then opens the inner specifier, which starts with the closing parenthesis.
-/

namespace LibraryScout.Imports.JavaScript

open LibraryScout.Source LibraryScout.Text

/-! ## Quoted specifiers -/

/-- A specifier of characters of a class starts a text, between two quotes that need not be the
same, and a rest of the text follows. -/
def InQuotes (inClass : Char → Bool) (text specifier after : List Char) : Prop :=
  ∃ opening closing, text = opening :: (specifier ++ closing :: after) ∧
    isQuote opening = true ∧ isQuote closing = true ∧ specifier ≠ [] ∧
      ∀ character ∈ specifier, inClass character = true

/-- Characters of the specifier of a call. -/
def isRequiredChar (character : Char) : Bool :=
  !isQuote character

theorem not_isRequiredChar_of_isQuote {character : Char} (isIt : isQuote character = true) :
    isRequiredChar character = false := by
  rw [isRequiredChar, isIt]
  rfl

theorem not_isSpecifierChar_of_isQuote {character : Char} (isIt : isQuote character = true) :
    isSpecifierChar character = false := by
  rw [isSpecifierChar, isIt]
  rfl

theorem stopsBefore_quote {quote : Char} (isIt : isQuote quote = true) (later : List Char) :
    StopsBefore isRequiredChar (quote :: later) := by
  rintro character ⟨⟩
  exact not_isRequiredChar_of_isQuote isIt

/-- A quoted specifier of characters of a class that starts a text, and the text after it. -/
def quotedName? (inClass : Char → Bool) : List Char → Option (List Char × List Char)
  | [] => none
  | opening :: rest =>
      if isQuote opening then
        match rest.takeWhile inClass with
        | [] => none
        | specifier =>
            match rest.dropWhile inClass with
            | [] => none
            | closing :: after => if isQuote closing then some (specifier, after) else none
      else
        none

theorem importedName?_eq (text : List Char) :
    importedName? text = quotedName? isSpecifierChar text := by
  cases text <;> rfl

theorem requiredName?_eq (text : List Char) :
    requiredName? text = quotedName? isRequiredChar text := by
  cases text with
  | nil => rfl
  | cons opening rest =>
      have stops := stopsBefore_dropWhile isRequiredChar rest
      change (if isQuote opening then
          match rest.takeWhile isRequiredChar with
          | [] => none
          | specifier =>
              match rest.dropWhile isRequiredChar with
              | [] => none
              | _ :: after => some (specifier, after)
        else none) = quotedName? isRequiredChar (opening :: rest)
      rw [quotedName?]
      cases closed : rest.dropWhile isRequiredChar with
      | nil => rfl
      | cons closing after =>
          rw [closed] at stops
          have isClosing : isQuote closing = true := by
            simpa [isRequiredChar] using stops closing rfl
          simp only [isClosing, if_true]

section

variable {inClass : Char → Bool} (noQuote : ∀ {character}, isQuote character = true →
  inClass character = false) {text specifier after : List Char}

include noQuote

theorem quotedName?_eq_some_iff :
    quotedName? inClass text = some (specifier, after) ↔ InQuotes inClass text specifier after := by
  constructor
  · intro found
    cases text with
    | nil => cases found
    | cons opening rest =>
        have pieces := List.takeWhile_append_dropWhile (p := inClass) (l := rest)
        rw [quotedName?] at found
        split at found
        next isOpening =>
          split at found
          · cases found
          next nonempty =>
            split at found
            · cases found
            next closing later closed =>
              split at found
              next isClosing =>
                cases found
                rw [closed] at pieces
                exact ⟨opening, closing, by rw [pieces], isOpening, isClosing, nonempty,
                  fun _ member => List.mem_takeWhile_imp member⟩
              next => cases found
        next => cases found
  · rintro ⟨opening, closing, rfl, isOpening, isClosing, nonempty, inside⟩
    have stops : StopsBefore inClass (closing :: after) := by
      rintro character ⟨⟩
      exact noQuote isClosing
    rw [quotedName?, if_pos isOpening, takeWhile_run inside stops, dropWhile_run inside stops]
    cases specifier with
    | nil => exact absurd rfl nonempty
    | cons first others => exact if_pos isClosing

end

theorem requiredName?_eq_some_iff {text specifier after : List Char} :
    requiredName? text = some (specifier, after) ↔
      InQuotes isRequiredChar text specifier after := by
  rw [requiredName?_eq]
  exact quotedName?_eq_some_iff not_isRequiredChar_of_isQuote

theorem importedName?_eq_some_iff {text specifier after : List Char} :
    importedName? text = some (specifier, after) ↔
      InQuotes isSpecifierChar text specifier after := by
  rw [importedName?_eq]
  exact quotedName?_eq_some_iff not_isSpecifierChar_of_isQuote

/-! ## Calls -/

/-- A call with a quoted specifier starts a text, and a rest of the text follows. -/
def CallStart (text specifier after : List Char) : Prop :=
  ∃ argument, text = "require(".toList ++ argument ∧
    InQuotes isRequiredChar argument specifier (')' :: after)

theorem call?_eq_some_iff {text specifier after : List Char} :
    call? text = some (specifier, after) ↔ CallStart text specifier after := by
  constructor
  · intro found
    unfold call? at found
    split at found
    · cases found
    next argument word =>
      split at found
      next specifier' rest name =>
        cases found
        exact ⟨argument, eq_append_of_after? word, requiredName?_eq_some_iff.1 name⟩
      · cases found
  · rintro ⟨argument, rfl, quoted⟩
    rw [call?, after?_append]
    simp only [requiredName?_eq_some_iff.2 quoted]

/-- The parenthesis of the word stands only at its end, so no later part of the word starts it. -/
theorem after?_require_of_end {front back : List Char} (split : "require(".toList = front ++ back)
    (frontNonempty : front ≠ []) (backNonempty : back ≠ []) (rest : List Char) :
    after? "require(".toList (back ++ rest) = none := by
  have closed : "require(".toList = "require".toList ++ ['('] := by decide
  rw [Option.eq_none_iff_forall_ne_some]
  intro tail found
  have whole := eq_append_of_after? found
  rw [closed, List.append_assoc] at whole
  have shorter : back.length ≤ "require".toList.length := by
    have lengths : "require".toList.length + 1 = front.length + back.length := by
      simpa using congrArg List.length split
    have positive := List.length_pos_iff.2 frontNonempty
    omega
  have starts : back <+: "require".toList :=
    List.prefix_of_prefix_length_le (List.prefix_append back rest)
      (whole ▸ List.prefix_append "require".toList (['('] ++ tail)) shorter
  have ends : back.getLast? = some '(' := by
    have last := congrArg List.getLast? split
    rw [closed, List.getLast?_append, List.getLast?_append,
      List.getLast?_eq_some_getLast backNonempty] at last
    rw [List.getLast?_eq_some_getLast backNonempty]
    exact last.symm
  exact absurd (starts.subset (List.mem_of_getLast? ends)) (by decide)

/-- Of the calls that start inside another one, none has a specifier that names a module. -/
theorem isExternal_of_inside {opening closing : Char} {specifier after front back : List Char}
    (isOpening : isQuote opening = true) (isClosing : isQuote closing = true)
    (inside : ∀ character ∈ specifier, isRequiredChar character = true)
    (split : "require(".toList ++ opening :: (specifier ++ [closing, ')']) = front ++ back)
    (frontNonempty : front ≠ []) (backNonempty : back ≠ []) {inner rest : List Char}
    (hidden : CallStart (back ++ after) inner rest) : isExternal inner = false := by
  obtain ⟨argument, whole, innerOpening, innerClosing, rfl, isInnerOpening, -, innerNonempty, -⟩ :=
    hidden
  have starts : ∀ {character later}, back = character :: later → character = 'r' := by
    rintro character later rfl
    exact (List.cons.inj whole).1
  have noWord : ∀ {quote}, isQuote quote = true → quote ≠ 'r' := by
    rintro quote isIt rfl
    cases isIt
  rcases List.append_eq_append_iff.1 split with ⟨within, -, argument⟩ | ⟨behind, word, isBack⟩
  · cases within with
    | nil => exact absurd (starts argument.symm) (noWord isOpening)
    | cons first within =>
        rcases List.append_eq_append_iff.1 (List.cons.inj argument).2 with
          ⟨marks, -, closed⟩ | ⟨last, ends, isBack⟩
        · rcases marks with _ | ⟨mark, _ | ⟨other, marks⟩⟩
          · exact absurd (starts closed.symm) (noWord isClosing)
          · exact absurd (starts (List.cons.inj closed).2.symm) (by decide)
          · have nothing := (List.cons.inj (List.cons.inj closed).2).2
            exact absurd (List.append_eq_nil_iff.1 nothing.symm).2 backNonempty
        · -- the closing quote is the first quote of `back`, so it opens the inner specifier
          have lastInside : ∀ character ∈ last, isRequiredChar character = true :=
            fun character member => inside character (ends ▸ List.mem_append_right within member)
          have wordInside : ∀ character ∈ "require(".toList, isRequiredChar character = true :=
            List.all_eq_true.1 (by decide)
          have behind := congrArg (List.dropWhile isRequiredChar) whole
          rw [isBack, List.append_assoc, List.cons_append,
            dropWhile_run lastInside (stopsBefore_quote isClosing _),
            dropWhile_run wordInside (stopsBefore_quote isInnerOpening _)] at behind
          cases inner with
          | nil => exact absurd rfl innerNonempty
          | cons initial others =>
              obtain rfl : ')' = initial := (List.cons.inj (List.cons.inj behind).2).1
              rfl
  · cases behind with
    | nil => exact absurd (starts isBack) (noWord isOpening)
    | cons first others =>
        have found := after?_append "require(".toList
          (innerOpening :: (inner ++ innerClosing :: ')' :: rest))
        rw [← whole, isBack, List.append_assoc,
          after?_require_of_end word frontNonempty (List.cons_ne_nil first others)] at found
        cases found

/-! ## Import clauses -/

/-- The word `from` with a quoted specifier starts a text, and a rest of the text follows. -/
def SourceStart (text specifier after : List Char) : Prop :=
  ∃ blanks name, text = "from".toList ++ (blanks ++ name) ∧ IsGap blanks ∧
    InQuotes isSpecifierChar name specifier after

/-- An import clause with bindings and a quoted specifier starts a text, and a rest of the text
follows. -/
def ClauseStart (text specifier after : List Char) : Prop :=
  ∃ space bindings gap source,
    text = "import".toList ++ (space ++ (bindings ++ (gap ++ source))) ∧ IsGap space ∧
      bindings ≠ [] ∧ (∀ character ∈ bindings, isBindingChar character = true) ∧ IsGap gap ∧
        SourceStart source specifier after

theorem afterBlank?_eq_some_iff {text rest : List Char} :
    afterBlank? text = some rest ↔
      ∃ gap, text = gap ++ rest ∧ IsGap gap ∧ StopsBefore isBlank rest := by
  constructor
  · intro found
    cases text with
    | nil => cases found
    | cons character later =>
        rw [afterBlank?] at found
        split at found
        next blank =>
          cases found
          obtain ⟨gap, whole, isGap⟩ := exists_gap blank later
          exact ⟨gap, whole, isGap, stopsBefore_dropWhile isBlank later⟩
        next => cases found
  · rintro ⟨gap, rfl, isGap, stops⟩
    cases gap with
    | nil => exact absurd rfl isGap.nonempty
    | cons first others =>
        obtain ⟨blank, othersBlank⟩ := List.forall_mem_cons.1 isGap.blank
        rw [List.cons_append, afterBlank?, if_pos blank, trimLeft, dropWhile_run othersBlank stops]

theorem not_isBlank_of_isQuote {character : Char} (isIt : isQuote character = true) :
    isBlank character = false := by
  simp only [isQuote, Bool.or_eq_true, decide_eq_true_eq] at isIt
  rcases isIt with rfl | rfl <;> decide

theorem InQuotes.stopsBefore {inClass : Char → Bool} {text specifier after : List Char}
    (quoted : InQuotes inClass text specifier after) : StopsBefore isBlank text := by
  obtain ⟨opening, closing, rfl, isOpening, -⟩ := quoted
  rintro character ⟨⟩
  exact not_isBlank_of_isQuote isOpening

theorem SourceStart.stopsBefore {text specifier after : List Char}
    (source : SourceStart text specifier after) : StopsBefore isBlank text := by
  obtain ⟨blanks, name, rfl, -⟩ := source
  rintro character ⟨⟩
  decide

theorem source?_eq_some_iff {text specifier after : List Char} :
    source? text = some (specifier, after) ↔ SourceStart text specifier after := by
  constructor
  · intro found
    unfold source? at found
    split at found
    · cases found
    next afterWord word =>
      split at found
      · cases found
      next name blank =>
        obtain ⟨blanks, rfl, isGap, -⟩ := afterBlank?_eq_some_iff.1 blank
        exact ⟨blanks, name, eq_append_of_after? word, isGap, importedName?_eq_some_iff.1 found⟩
  · rintro ⟨blanks, name, rfl, isGap, quoted⟩
    have blank := afterBlank?_eq_some_iff.2 ⟨blanks, rfl, isGap, quoted.stopsBefore⟩
    rw [source?, after?_append]
    simp only [blank, importedName?_eq_some_iff.2 quoted]

/-! ## Bindings -/

/-- Bindings that were read are followed by white space and by the specifier. -/
theorem exists_of_bindings? {text specifier after : List Char}
    (found : bindings? text = some (specifier, after)) :
    ∃ bindings gap source, text = bindings ++ (gap ++ source) ∧
      (∀ character ∈ bindings, isBindingChar character = true) ∧ IsGap gap ∧
        SourceStart source specifier after := by
  fun_induction bindings? text with
  | case1 => cases found
  | case2 character rest blank name named =>
      cases found
      obtain ⟨gap, whole, isGap⟩ := exists_gap blank rest
      exact ⟨[], gap, trimLeft rest, whole, List.forall_mem_nil _, isGap,
        source?_eq_some_iff.1 named⟩
  | case3 character rest blank missed goesOn inductionHypothesis =>
      obtain ⟨bindings, gap, source, split, binding, isGap, isSource⟩ := inductionHypothesis found
      have pieces := List.takeWhile_append_dropWhile (p := isBlank) (l := rest)
      rw [Bool.and_eq_true, List.all_eq_true] at goesOn
      refine ⟨character :: (rest.takeWhile isBlank ++ bindings), gap, source, ?_, ?_, isGap,
        isSource⟩
      · rw [List.cons_append, List.append_assoc, ← split, trimLeft, pieces]
      · exact List.forall_mem_cons.2 ⟨goesOn.1, List.forall_mem_append.2 ⟨goesOn.2, binding⟩⟩
  | case4 => cases found
  | case5 character rest notBlank isBinding inductionHypothesis =>
      obtain ⟨bindings, gap, source, rfl, binding, rest⟩ := inductionHypothesis found
      exact ⟨character :: bindings, gap, source, rfl, List.forall_mem_cons.2 ⟨isBinding, binding⟩,
        rest⟩
  | case6 => cases found

section

variable {character : Char} {rest bindings gap source specifier after : List Char}
  (split : character :: rest = bindings ++ (gap ++ source)) (isGap : IsGap gap)

include split isGap

/-- A character that is not white space belongs to the bindings before white space. -/
theorem exists_of_solid (solid : ¬ isBlank character = true) :
    ∃ others, bindings = character :: others ∧ rest = others ++ (gap ++ source) := by
  cases bindings with
  | nil =>
      obtain ⟨first, others, rfl⟩ := List.exists_cons_of_ne_nil isGap.nonempty
      rw [List.nil_append, List.cons_append, List.cons.injEq] at split
      obtain ⟨rfl, -⟩ := split
      exact absurd (List.forall_mem_cons.1 isGap.blank).1 solid
  | cons first others =>
      rw [List.cons_append, List.cons.injEq] at split
      obtain ⟨rfl, rfl⟩ := split
      exact ⟨others, rfl, rfl⟩

/-- Where no specifier follows white space, the bindings go on behind it: they start with it and
are not white space alone. -/
theorem exists_of_missed (isSource : SourceStart source specifier after)
    (missed : source? (trimLeft rest) = none) :
    ∃ others, bindings = character :: others ∧ rest = others ++ (gap ++ source) ∧
      ¬ ∀ character ∈ others, isBlank character = true := by
  have readBehind : ∀ {blanks}, (∀ character ∈ blanks, isBlank character = true) →
      source? (trimLeft (blanks ++ source)) = some (specifier, after) := by
    intro blanks blank
    rw [trimLeft, dropWhile_run blank isSource.stopsBefore]
    exact source?_eq_some_iff.2 isSource
  cases bindings with
  | nil =>
      obtain ⟨first, others, rfl⟩ := List.exists_cons_of_ne_nil isGap.nonempty
      rw [List.nil_append, List.cons_append, List.cons.injEq] at split
      obtain ⟨rfl, rfl⟩ := split
      rw [readBehind (List.forall_mem_cons.1 isGap.blank).2] at missed
      cases missed
  | cons first others =>
      rw [List.cons_append, List.cons.injEq] at split
      obtain ⟨rfl, rfl⟩ := split
      refine ⟨others, rfl, rfl, fun blank => ?_⟩
      rw [← List.append_assoc,
        readBehind (List.forall_mem_append.2 ⟨blank, isGap.blank⟩)] at missed
      cases missed

end

/-- Where bindings are followed by white space and by a specifier, some specifier is read. -/
theorem isSome_bindings? {text bindings gap source specifier after : List Char}
    (split : text = bindings ++ (gap ++ source))
    (binding : ∀ character ∈ bindings, isBindingChar character = true) (isGap : IsGap gap)
    (isSource : SourceStart source specifier after) : (bindings? text).isSome = true := by
  fun_induction bindings? text generalizing bindings with
  | case1 =>
      exact absurd (List.append_eq_nil_iff.1 (List.append_eq_nil_iff.1 split.symm).2).1
        isGap.nonempty
  | case2 => rfl
  | case3 character rest blank missed goesOn inductionHypothesis =>
      obtain ⟨others, rfl, rfl, solid⟩ := exists_of_missed split isGap isSource missed
      refine inductionHypothesis (trimLeft_append solid _) fun character member => ?_
      exact binding character (List.mem_cons_of_mem _ ((List.dropWhile_suffix _).subset member))
  | case4 character rest blank missed stops =>
      obtain ⟨others, rfl, rfl, solid⟩ := exists_of_missed split isGap isSource missed
      obtain ⟨isBinding, othersBinding⟩ := List.forall_mem_cons.1 binding
      rw [takeWhile_isBlank_append solid, isBinding, Bool.true_and, List.all_eq_true] at stops
      exact absurd (fun character member =>
        othersBinding character ((List.takeWhile_prefix _).subset member)) stops
  | case5 character rest notBlank isBinding inductionHypothesis =>
      obtain ⟨others, rfl, rfl⟩ := exists_of_solid split isGap notBlank
      exact inductionHypothesis rfl (List.forall_mem_cons.1 binding).2
  | case6 character rest notBlank noBinding =>
      obtain ⟨others, rfl, rfl⟩ := exists_of_solid split isGap notBlank
      exact absurd (binding character List.mem_cons_self) noBinding

/-! ## Clauses -/

/-- White space between two blanks serves as bindings. -/
theorem exists_of_blankBindings {blanks : List Char} (found : blankBindings blanks = true) :
    ∃ space binding gap, blanks = space ++ (binding :: gap) ∧ space ≠ [] ∧ gap ≠ [] ∧
      isBindingChar binding = true := by
  obtain ⟨binding, member, isBinding⟩ := List.any_eq_true.1 found
  obtain ⟨front, back, split⟩ := List.append_of_mem member
  cases blanks with
  | nil => cases member
  | cons first others =>
      rw [List.drop_succ_cons, List.drop_zero] at member split
      have nonempty : others ≠ [] := by
        rintro rfl
        cases member
      refine ⟨first :: front, binding, back ++ [others.getLast nonempty], ?_,
        List.cons_ne_nil first front, by simp, isBinding⟩
      have whole := List.dropLast_concat_getLast nonempty
      rw [split, List.append_assoc] at whole
      exact (congrArg (first :: ·) whole).symm

theorem blankBindings_append {space bindings gap : List Char} (isSpace : space ≠ [])
    (nonempty : bindings ≠ []) (binding : ∀ character ∈ bindings, isBindingChar character = true)
    (isGap : gap ≠ []) : blankBindings (space ++ (bindings ++ gap)) = true := by
  obtain ⟨first, others, rfl⟩ := List.exists_cons_of_ne_nil isSpace
  obtain ⟨one, more, rfl⟩ := List.exists_cons_of_ne_nil nonempty
  have isBinding := binding one List.mem_cons_self
  have inside : (others ++ (one :: more ++ gap)).dropLast =
      others ++ (one :: (more ++ gap.dropLast)) := by
    rw [← List.append_assoc, List.dropLast_append_of_ne_nil isGap, List.append_assoc]
    rfl
  rw [blankBindings, List.cons_append, List.drop_succ_cons, List.drop_zero, inside, List.any_append,
    List.any_cons, isBinding, Bool.true_or, Bool.or_true]

theorem clauseStart_of_clause? {text specifier after : List Char}
    (found : clause? text = some (specifier, after)) : ClauseStart text specifier after := by
  unfold clause? at found
  split at found
  · cases found
  next afterWord word =>
    obtain rfl := eq_append_of_after? word
    split at found
    · cases found
    next start blank =>
      obtain ⟨space, rfl, isSpace, stops⟩ := afterBlank?_eq_some_iff.1 blank
      rw [takeWhile_run isSpace.blank stops] at found
      dsimp only at found
      split at found
      next named bindings =>
        cases found
        split at bindings
        · cases bindings
        next first rest =>
          split at bindings
          next isBinding =>
            obtain ⟨others, gap, source, rfl, binding, isGap, isSource⟩ :=
              exists_of_bindings? bindings
            exact ⟨space, first :: others, gap, source, rfl, isSpace, List.cons_ne_nil first others,
              List.forall_mem_cons.2 ⟨isBinding, binding⟩, isGap, isSource⟩
          next => cases bindings
      next =>
        split at found
        next spaced =>
          obtain ⟨front, binding, gap, rfl, frontNonempty, gapNonempty, isBinding⟩ :=
            exists_of_blankBindings spaced
          obtain ⟨frontBlank, behindBlank⟩ := List.forall_mem_append.1 isSpace.blank
          refine ⟨front, [binding], gap, start, by simp, ⟨frontNonempty, frontBlank⟩,
            List.cons_ne_nil _ _, List.forall_mem_singleton.2 isBinding,
            ⟨gapNonempty, (List.forall_mem_cons.1 behindBlank).2⟩, source?_eq_some_iff.1 found⟩
        next => cases found

/-- The specifier of a clause stands in the first quotes of the text. -/
theorem ClauseStart.importedName? {text specifier after : List Char}
    (clause : ClauseStart text specifier after) :
    JavaScript.importedName? (text.dropWhile isRequiredChar) = some (specifier, after) := by
  obtain ⟨space, bindings, gap, source, rfl, isSpace, -, binding, isGap, blanks, name, rfl,
    isBlanks, quoted⟩ := clause
  have ofBlank : ∀ {blanks : List Char}, (∀ character ∈ blanks, isBlank character = true) →
      ∀ character ∈ blanks, isRequiredChar character = true := by
    intro blanks blank character member
    by_contra isIt
    have quote : isQuote character = true := by simpa [isRequiredChar] using isIt
    exact absurd (blank character member) (by rw [not_isBlank_of_isQuote quote]; decide)
  have ofBinding : ∀ character ∈ bindings, isRequiredChar character = true := by
    intro character member
    have inClass := binding character member
    simp only [isBindingChar, Bool.and_eq_true] at inClass
    exact inClass.1.1
  have importInside : ∀ character ∈ "import".toList, isRequiredChar character = true :=
    List.all_eq_true.1 (by decide)
  have fromInside : ∀ character ∈ "from".toList, isRequiredChar character = true :=
    List.all_eq_true.1 (by decide)
  have stops : StopsBefore isRequiredChar name := by
    obtain ⟨opening, closing, rfl, isOpening, -⟩ := quoted
    exact stopsBefore_quote isOpening _
  rw [List.dropWhile_append_of_pos importInside,
    List.dropWhile_append_of_pos (ofBlank isSpace.blank), List.dropWhile_append_of_pos ofBinding,
    List.dropWhile_append_of_pos (ofBlank isGap.blank), List.dropWhile_append_of_pos fromInside,
    dropWhile_run (ofBlank isBlanks.blank) stops]
  exact importedName?_eq_some_iff.2 quoted

/-- A clause that stands at the start of a text is found there, if perhaps told apart in another
way. -/
theorem isSome_clause? {text specifier after : List Char}
    (clause : ClauseStart text specifier after) : (clause? text).isSome = true := by
  obtain ⟨space, bindings, gap, source, rfl, isSpace, nonempty, binding, isGap, isSource⟩ := clause
  rw [clause?, after?_append]
  by_cases blanks : ∀ character ∈ bindings, isBlank character = true
  · have allBlank : IsGap (space ++ (bindings ++ gap)) :=
      ⟨by simp [isSpace.nonempty], List.forall_mem_append.2 ⟨isSpace.blank,
        List.forall_mem_append.2 ⟨blanks, isGap.blank⟩⟩⟩
    have whole : space ++ (bindings ++ (gap ++ source)) = space ++ (bindings ++ gap) ++ source := by
      simp
    have start := afterBlank?_eq_some_iff.2 ⟨_, whole, allBlank, isSource.stopsBefore⟩
    have taken : (space ++ (bindings ++ (gap ++ source))).takeWhile isBlank =
        space ++ (bindings ++ gap) := by
      rw [whole, takeWhile_run allBlank.blank isSource.stopsBefore]
    simp only [start, taken, source?_eq_some_iff.2 isSource,
      blankBindings_append isSpace.nonempty nonempty binding isGap.nonempty, if_true]
    split <;> rfl
  · have pieces := List.takeWhile_append_dropWhile (p := isBlank) (l := bindings)
    have solid : trimLeft bindings ≠ [] := by rwa [trimLeft, ne_eq, List.dropWhile_eq_nil_iff]
    have inBindings : ∀ character ∈ trimLeft bindings, isBindingChar character = true :=
      fun character member => binding character ((List.dropWhile_suffix _).subset member)
    have stops := stopsBefore_dropWhile isBlank bindings
    rw [← trimLeft] at pieces stops
    cases solidPart : trimLeft bindings with
    | nil => exact absurd solidPart solid
    | cons first others =>
        rw [solidPart] at pieces inBindings stops
        obtain ⟨isBinding, othersBinding⟩ := List.forall_mem_cons.1 inBindings
        have start : afterBlank? (space ++ (bindings ++ (gap ++ source))) =
            some (first :: (others ++ (gap ++ source))) := by
          refine afterBlank?_eq_some_iff.2 ⟨space ++ bindings.takeWhile isBlank, ?_, ⟨?_, ?_⟩, ?_⟩
          · rw [List.append_assoc, ← List.cons_append, ← List.append_assoc (bindings.takeWhile _),
              pieces]
          · simp [isSpace.nonempty]
          · exact List.forall_mem_append.2 ⟨isSpace.blank,
              fun _ member => List.mem_takeWhile_imp member⟩
          · simpa [StopsBefore] using stops
        have named := isSome_bindings? rfl othersBinding isGap isSource
        obtain ⟨found, read⟩ := Option.isSome_iff_exists.1 named
        simp only [start, isBinding, if_true, read, Option.isSome_some]

theorem clause?_eq_some_iff {text specifier after : List Char} :
    clause? text = some (specifier, after) ↔ ClauseStart text specifier after := by
  constructor
  · exact clauseStart_of_clause?
  · intro clause
    obtain ⟨found, read⟩ := Option.isSome_iff_exists.1 (isSome_clause? clause)
    -- whatever was read has the specifier in the first quotes
    have same := (clauseStart_of_clause? read).importedName?
    rw [clause.importedName?] at same
    rw [read, ← same]

/-- However the bindings of a clause are told apart from the white space around them, its specifier
is the same, and so is its end. -/
theorem ClauseStart.unique {text first second firstAfter secondAfter : List Char}
    (one : ClauseStart text first firstAfter) (other : ClauseStart text second secondAfter) :
    first = second ∧ firstAfter = secondAfter := by
  have same := one.importedName?
  rw [other.importedName?] at same
  cases same
  exact ⟨rfl, rfl⟩

theorem ClauseStart.shorter {text specifier after : List Char}
    (clause : ClauseStart text specifier after) : after.length < text.length := by
  obtain ⟨space, bindings, gap, source, rfl, -, -, -, -, blanks, name, rfl, -, opening, closing,
    rfl, -⟩ := clause
  simp only [List.length_append, List.length_cons]
  omega

/-! ## The specifiers of a source -/

/-- A call with a specifier stands at a position of a text. -/
def CallAt (text : List Char) (position : Nat) (specifier : List Char) : Prop :=
  ∃ before here after, text = before ++ here ∧ position = before.length ∧
    CallStart here specifier after

theorem matchAt_call_iff {text specifier : List Char} {position : Nat} :
    MatchAt (anywhere call?) true text position specifier ↔ CallAt text position specifier := by
  constructor
  · rintro ⟨before, here, after, whole, start, -, matched⟩
    exact ⟨before, here, after, whole, start, call?_eq_some_iff.1 matched⟩
  · rintro ⟨before, here, after, whole, start, call⟩
    refine ⟨before, here, after, whole, start, ?_, call?_eq_some_iff.2 call⟩
    obtain ⟨argument, rfl, -⟩ := call
    exact List.cons_ne_nil _ _

/-- The scan for calls loses none whose specifier names a module. -/
theorem call?_hidesNone : (anywhere call?).HidesNone isExternal := by
  refine hidesNone_anywhere fun text specifier after matched => ?_
  obtain ⟨argument, rfl, opening, closing, rfl, isOpening, isClosing, -, inside⟩ :=
    call?_eq_some_iff.1 matched
  refine ⟨"require(".toList ++ opening :: (specifier ++ [closing, ')']), List.cons_ne_nil _ _,
    by simp, ?_⟩
  intro front back split frontNonempty backNonempty found member
  exact isExternal_of_inside isOpening isClosing inside split frontNonempty backNonempty
    (call?_eq_some_iff.1 member)

/-- The external calls of a text, in its order. -/
theorem exists_calls (text : List Char) :
    ∃ found : List (Nat × List Char),
      found.Pairwise (fun earlier later => earlier.1 < later.1) ∧
        (∀ position specifier, (position, specifier) ∈ found ↔
          CallAt text position specifier ∧ isExternal specifier = true) ∧
        (required text).filter isExternal = found.map Prod.snd := by
  obtain ⟨calls, sorted, located, values⟩ :=
    exists_positions_of_allMatches (anywhere call?) true text
  refine ⟨calls.filter fun one => isExternal one.2, sorted.filter _, ?_, ?_⟩
  · intro position specifier
    rw [List.mem_filter, located, matchAt_call_iff]
  · have kept := filter_occurrences call?_hidesNone true text
    rw [values, List.filter_map] at kept
    exact kept

/-- The scan for clauses takes the earliest one behind the last one, again and again. -/
theorem earliest_clauses_iff {text : List Char} {specifiers : List (List Char)} :
    Earliest ClauseStart text specifiers ↔ specifiers = imported text :=
  earliest_iff clause?_eq_some_iff fun found => (clause?_eq_some_iff.1 found).shorter

/-- External specifiers are not empty, so a context admits each. -/
theorem identifiers_modules (text : String) :
    (modules text).identifiers = (((required text.toList ++ imported text.toList).filter
      isExternal).map String.ofList).eraseDups := by
  rw [modules, Context.identifiers_unique, List.filter_eq_self.2]
  intro identifier member
  obtain ⟨specifier, kept, rfl⟩ := List.mem_map.1 member
  have external := (List.mem_filter.1 kept).2
  rw [decide_eq_true_eq]
  intro nothing
  rw [String.ofList_eq_empty_iff.1 nothing] at external
  cases external

/-- The modules of a source are the external specifiers of all its calls, those that start inside
another call included, and then those of its clauses, each where it stands first. The clauses are
met by taking the earliest one behind the last one again and again, and each of them has one
specifier only, whatever counts as its bindings. -/
theorem specifiers_exact (text : String) :
    ∃ (called : List (Nat × List Char)) (clauses : List (List Char)),
      called.Pairwise (fun earlier later => earlier.1 < later.1) ∧
        (∀ position specifier, (position, specifier) ∈ called ↔
          CallAt text.toList position specifier ∧ isExternal specifier = true) ∧
        (∀ specifiers, Earliest ClauseStart text.toList specifiers ↔ specifiers = clauses) ∧
        (∀ here first second firstAfter secondAfter, ClauseStart here first firstAfter →
          ClauseStart here second secondAfter → first = second ∧ firstAfter = secondAfter) ∧
        extract text = ⟨⟨((called.map Prod.snd ++ clauses.filter isExternal).map
          String.ofList).eraseDups⟩, .js, []⟩ := by
  obtain ⟨called, sorted, located, values⟩ := exists_calls text.toList
  refine ⟨called, imported text.toList, sorted, located, fun _ => earliest_clauses_iff,
    fun _ _ _ _ _ => ClauseStart.unique, ?_⟩
  have kept := identifiers_modules text
  rw [List.filter_append, values] at kept
  rw [extract, Extraction.ofContext, ← kept]

/-- A second call starts inside the specifier of the first one; its own specifier is `)`. -/
example : extract "require('require(')');import \n a from 'b';import c from './c'" =
    ⟨⟨["require(", "b"]⟩, .js, []⟩ := by
  decide +kernel

end LibraryScout.Imports.JavaScript
