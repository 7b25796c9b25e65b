import LibraryScout.Proofs.Text.Occurrences
import LibraryScout.Proofs.Text.Pieces

/-!
Contract: the scan for forms that start a line, on texts put together from several lines.

Owns:
- `ReadsWithin`: a form reads of a text the same whether or not a line feed and more text follow;
- resumption: below a text within which all statements are read, the scan goes on as on a text of
  its own;
- the values of a line remain values of every text that holds the line below such a text;
- where no statement reads beyond its line, the scan of a text is one scan for each of its lines.

Does not own: which statements of a language are read within their line.
-/

namespace LibraryScout.Text

variable {α : Type} {form : List Char → Option (α × List Char)}

/-- A word is found before a character that it does not hold, or not at all. -/
theorem after?_append_stop {word : List Char} {stop : Char} (absent : stop ∉ word)
    (text rest : List Char) :
    after? word (text ++ stop :: rest) = (after? word text).map (· ++ stop :: rest) := by
  induction word generalizing text with
  | nil => rfl
  | cons letter letters inductionHypothesis =>
      have different : letter ≠ stop := fun same => absent (same ▸ List.mem_cons_self)
      have absentLater : stop ∉ letters := fun member => absent (List.mem_cons_of_mem letter member)
      cases text with
      | nil => rw [List.nil_append, after?, after?, if_neg different, Option.map_none]
      | cons character later =>
          rw [List.cons_append, after?, after?]
          split
          · exact inductionHypothesis absentLater later
          · rfl

/-! ## Blank lines -/

/-- A line that is blank after some characters is so, too, if it was blank before them. -/
theorem lineBlankThrough_of_false {text : List Char} (blank : lineBlankThrough false text = true)
    (lineBlank : Bool) : lineBlankThrough lineBlank text = true := by
  induction text generalizing lineBlank with
  | nil => cases blank
  | cons character rest inductionHypothesis =>
      have step : ∀ before : Bool, lineBlankThrough before (character :: rest) =
          lineBlankThrough (lineBlankAfter before character) rest := fun _ => rfl
      rw [step] at blank ⊢
      by_cases feed : character = '\n'
      · simpa [lineBlankAfter, feed] using blank
      · have notBlank : lineBlankAfter false character = false := by simp [lineBlankAfter, feed]
        rw [notBlank] at blank
        exact inductionHypothesis blank _

/-! ## Forms at the start of lines -/

/-- A form reads of a text what it reads where a line feed and some rest follow, and leaves these
besides. -/
def ReadsWithin (form : List Char → Option (α × List Char)) (text rest : List Char) : Prop :=
  form (text ++ '\n' :: rest) = (form text).map fun found => (found.1, found.2 ++ '\n' :: rest)

/-- What the statements of a language have in common: they do not start with white space, what
follows them is left, and one that was read is read again where its line is followed by others. -/
structure IsStatement (form : List Char → Option (α × List Char)) : Prop where
  leaves : ∀ {text value after}, form text = some (value, after) → after <:+ text
  start : ∀ {character text}, isBlank character = true → form (character :: text) = none
  finished : ∀ {text found} (rest : List Char), form text = some found → ReadsWithin form text rest

/-- Something holds of a text from each place on that white space alone precedes on its line. -/
def OnBlankLines (holds : List Char → Prop) (lineBlank : Bool) (text : List Char) : Prop :=
  ∀ before here, text = before ++ here → lineBlankThrough lineBlank before = true → holds here

theorem OnBlankLines.tail {holds : List Char → Prop} {lineBlank : Bool} {character : Char}
    {text : List Char} (everywhere : OnBlankLines holds lineBlank (character :: text)) :
    OnBlankLines holds (lineBlankAfter lineBlank character) text := by
  rintro before here rfl blank
  exact everywhere (character :: before) here rfl blank

theorem OnBlankLines.behind {holds : List Char → Prop} {lineBlank : Bool} {front back : List Char}
    (everywhere : OnBlankLines holds lineBlank (front ++ back)) :
    OnBlankLines holds false back := by
  rintro before here rfl blank
  refine everywhere (front ++ before) here (List.append_assoc front before here).symm ?_
  rw [lineBlankThrough_append]
  exact lineBlankThrough_of_false blank _

/-- All statements that a text starts on a blank line are read within it. -/
def AllWithin (form : List Char → Option (α × List Char)) (lineBlank : Bool)
    (text rest : List Char) : Prop :=
  ∀ before here, text = before ++ here → lineBlankThrough lineBlank before = true →
    ReadsWithin form here rest

theorem AllWithin.tail {lineBlank : Bool} {character : Char} {text rest : List Char}
    (within : AllWithin form lineBlank (character :: text) rest) :
    AllWithin form (lineBlankAfter lineBlank character) text rest :=
  OnBlankLines.tail within

theorem AllWithin.behind {lineBlank : Bool} {front back rest : List Char}
    (within : AllWithin form lineBlank (front ++ back) rest) : AllWithin form false back rest :=
  OnBlankLines.behind within

/-- Behind a statement the scan waits for the end of its line. -/
theorem occurrences_feed (rest : List Char) :
    occurrences (lineForm form) false ('\n' :: rest) = occurrences (lineForm form) true rest := by
  rw [occurrences]
  rfl

/-- The scan of a text within which all its statements are read, with more text below it, is the
scan of the text and then a scan of its own of what is below. -/
theorem occurrences_below (statement : IsStatement form) {lineBlank : Bool}
    {above rest : List Char} (within : AllWithin form lineBlank above rest) :
    occurrences (lineForm form) lineBlank (above ++ '\n' :: rest) =
      occurrences (lineForm form) lineBlank above ++ occurrences (lineForm form) true rest := by
  fun_induction occurrences (lineForm form) lineBlank above with
  | case1 lineBlank =>
      cases lineBlank with
      | false => exact occurrences_feed rest
      | true =>
          have missed : lineForm form true ('\n' :: rest) = none := statement.start (by decide)
          rw [List.nil_append, occurrences, missed]
          rfl
  | case2 lineBlank character later missed inductionHypothesis =>
      have missedThere : lineForm form lineBlank (character :: (later ++ '\n' :: rest)) = none := by
        cases lineBlank with
        | false => rfl
        | true =>
            have here : form (character :: later ++ '\n' :: rest) = _ := within [] _ rfl rfl
            exact here.trans (congrArg _ missed)
      rw [List.cons_append, occurrences, missedThere]
      exact inductionHypothesis within.tail
  | case3 lineBlank character later value after matched shorter inductionHypothesis =>
      -- The match was made within the text above, so its end leaves a part of that text.
      cases lineBlank with
      | false => cases matched
      | true =>
          have here : form (character :: later ++ '\n' :: rest) = _ := within [] _ rfl rfl
          obtain ⟨front, split⟩ := statement.leaves matched
          have foundThere : lineForm form true (character :: later ++ '\n' :: rest) =
              some (value, after ++ '\n' :: rest) :=
            here.trans (congrArg _ matched)
          rw [occurrences_of_match foundThere (by simp; omega), List.cons_append,
            inductionHypothesis (split ▸ within).behind]
  | case4 lineBlank character later value after matched longer inductionHypothesis =>
      cases lineBlank with
      | false => cases matched
      | true =>
          have here : form (character :: later ++ '\n' :: rest) = _ := within [] _ rfl rfl
          have foundThere : lineForm form true (character :: (later ++ '\n' :: rest)) =
              some (value, after ++ '\n' :: rest) :=
            here.trans (congrArg _ matched)
          have longerThere :
              ¬ (after ++ '\n' :: rest).length ≤ (later ++ '\n' :: rest).length := by
            simpa using longer
          rw [List.cons_append, occurrences, foundThere]
          exact (if_neg longerThere).trans (inductionHypothesis within.tail)

/-- A value is read from a statement that only white space precedes on its line. -/
theorem exists_statement_of_mem (statement : IsStatement form) {lineBlank : Bool}
    {text : List Char} {value : α}
    (member : value ∈ occurrences (lineForm form) lineBlank text) :
    ∃ before here after, text = before ++ here ∧ lineBlankThrough lineBlank before = true ∧
      after.length < here.length ∧ form here = some (value, after) := by
  fun_induction occurrences (lineForm form) lineBlank text with
  | case1 => simp at member
  | case2 lineBlank character later missed inductionHypothesis =>
      obtain ⟨before, here, after, rfl, blank, rest⟩ := inductionHypothesis member
      exact ⟨character :: before, here, after, rfl, blank, rest⟩
  | case3 lineBlank character later first left matched shorter inductionHypothesis =>
      cases lineBlank with
      | false => cases matched
      | true =>
          have found : form (character :: later) = some (first, left) := matched
          rcases List.mem_cons.1 member with rfl | behind
          · exact ⟨[], character :: later, left, rfl, rfl, Nat.lt_succ_of_le shorter, found⟩
          · obtain ⟨before, here, after, rfl, blank, rest⟩ := inductionHypothesis behind
            obtain ⟨front, split⟩ := statement.leaves found
            refine ⟨front ++ before, here, after, by rw [← split, List.append_assoc], ?_, rest⟩
            rw [lineBlankThrough_append]
            exact lineBlankThrough_of_false blank _
  | case4 lineBlank character later first left matched longer inductionHypothesis =>
      obtain ⟨before, here, after, rfl, blank, rest⟩ := inductionHypothesis member
      exact ⟨character :: before, here, after, rfl, blank, rest⟩

theorem occurrences_of_statement {text after : List Char} {value : α}
    (found : form text = some (value, after)) (shorter : after.length < text.length) :
    occurrences (lineForm form) true text = value :: occurrences (lineForm form) false after :=
  occurrences_of_match found shorter

/-- A statement that white space alone precedes is found at the start of a text. -/
theorem mem_occurrences_of_statement (statement : IsStatement form)
    {blanks here after : List Char} {value : α}
    (blank : ∀ character ∈ blanks, isBlank character = true) (shorter : after.length < here.length)
    (found : form here = some (value, after)) :
    value ∈ occurrences (lineForm form) true (blanks ++ here) := by
  induction blanks with
  | nil =>
      rw [List.nil_append, occurrences_of_statement found shorter]
      exact List.mem_cons_self
  | cons space others inductionHypothesis =>
      have spaceBlank := blank space List.mem_cons_self
      have matched : lineForm form true (space :: (others ++ here)) = none :=
        statement.start spaceBlank
      have stillBlank : lineBlankAfter true space = true := by simp [lineBlankAfter, spaceBlank]
      rw [List.cons_append, occurrences, matched]
      simp only [stillBlank]
      exact inductionHypothesis fun character member =>
        blank character (List.mem_cons_of_mem space member)

/-- The values of a line are values of every text that holds the line, if all statements above it
are read within their lines. -/
theorem mem_occurrences_between (statement : IsStatement form) {above line below : List Char}
    (oneLine : '\n' ∉ line)
    (within : AllWithin form true above (line ++ '\n' :: below)) {value : α}
    (member : value ∈ occurrences (lineForm form) true line) :
    value ∈ occurrences (lineForm form) true (above ++ '\n' :: (line ++ '\n' :: below)) := by
  obtain ⟨blanks, here, after, rfl, blank, shorter, found⟩ :=
    exists_statement_of_mem statement member
  have blanksInLine : '\n' ∉ blanks := fun inside => oneLine (List.mem_append_left here inside)
  rw [lineBlankThrough_of_line blanksInLine, Bool.true_and, List.all_eq_true] at blank
  have foundThere : form (here ++ '\n' :: below) = some (value, after ++ '\n' :: below) := by
    rw [statement.finished below found, found]
    rfl
  rw [occurrences_below statement within, List.append_assoc]
  refine List.mem_append_right _ (mem_occurrences_of_statement statement blank ?_ foundThere)
  simpa using shorter

/-! ## Line by line -/

/-- Behind a statement a character that ends no line makes no difference. -/
theorem occurrences_behind_cons {character : Char} (notFeed : character ≠ '\n')
    (later : List Char) :
    occurrences (lineForm form) false (character :: later) =
      occurrences (lineForm form) false later := by
  have missed : lineForm form false (character :: later) = none := rfl
  have stillBehind : lineBlankAfter false character = false := by simp [lineBlankAfter, notFeed]
  rw [occurrences, missed]
  simp only [stillBehind]

/-- Behind a statement nothing is found before the end of its line. -/
theorem occurrences_behind {line : List Char} (oneLine : '\n' ∉ line) :
    occurrences (lineForm form) false line = [] := by
  induction line with
  | nil => rw [occurrences]
  | cons character rest inductionHypothesis =>
      have notFeed : character ≠ '\n' := fun same => oneLine (same ▸ List.mem_cons_self)
      have restOneLine : '\n' ∉ rest := fun member => oneLine (List.mem_cons_of_mem _ member)
      rw [occurrences_behind_cons notFeed]
      exact inductionHypothesis restOneLine

/-- On one line only the first character that is not white space can start a statement. -/
theorem occurrences_of_line (statement : IsStatement form)
    (shortens : ∀ {text value after}, form text = some (value, after) →
      after.length < text.length)
    {line : List Char} (oneLine : '\n' ∉ line) :
    occurrences (lineForm form) true line = ((form (trimLeft line)).map Prod.fst).toList := by
  induction line with
  | nil =>
      cases found : form (trimLeft []) with
      | none => rw [occurrences]; rfl
      | some one => exact absurd (shortens found) (Nat.not_lt_zero _)
  | cons character rest inductionHypothesis =>
      have notFeed : character ≠ '\n' := fun same => oneLine (same ▸ List.mem_cons_self)
      have restOneLine : '\n' ∉ rest := fun member => oneLine (List.mem_cons_of_mem _ member)
      have goesOn : lineBlankAfter true character = isBlank character := by
        simp [lineBlankAfter, notFeed]
      by_cases blank : isBlank character = true
      · have missed : lineForm form true (character :: rest) = none := statement.start blank
        have trimmed : trimLeft (character :: rest) = trimLeft rest :=
          List.dropWhile_cons_of_pos blank
        rw [occurrences, missed]
        simp only [goesOn, blank, trimmed]
        exact inductionHypothesis restOneLine
      · have trimmed : trimLeft (character :: rest) = character :: rest :=
          List.dropWhile_cons_of_neg blank
        rw [trimmed]
        cases found : form (character :: rest) with
        | none =>
            have missed : lineForm form true (character :: rest) = none := found
            rw [occurrences, missed]
            simp only [goesOn, Bool.eq_false_iff.2 blank]
            exact occurrences_behind restOneLine
        | some one =>
            obtain ⟨value, after⟩ := one
            have afterOneLine : '\n' ∉ after := fun member =>
              oneLine ((statement.leaves found).subset member)
            rw [occurrences_of_statement found (shortens found), occurrences_behind afterOneLine]
            rfl

/-- Induction over the lines of a text. -/
@[elab_as_elim]
theorem line_induction {motive : List Char → Prop}
    (last : ∀ line, '\n' ∉ line → motive line)
    (next : ∀ line below, '\n' ∉ line → motive below → motive (line ++ '\n' :: below))
    (text : List Char) : motive text := by
  by_cases feed : '\n' ∈ text
  · obtain ⟨line, below, whole, oneLine⟩ := List.eq_append_cons_of_mem feed
    rw [whole]
    exact next line below oneLine (line_induction last next below)
  · exact last text feed
termination_by text.length
decreasing_by
  rw [whole, List.length_append, List.length_cons]
  omega

/-- Where no statement reads beyond its line, the scan of a text reads each line by itself. -/
theorem occurrences_eq_filterMap_lines (statement : IsStatement form)
    (shortens : ∀ {text value after}, form text = some (value, after) →
      after.length < text.length)
    {text : List Char}
    (within : ∀ line ∈ cut '\n' text, ∀ rest, AllWithin form true line rest) :
    occurrences (lineForm form) true text =
      (cut '\n' text).filterMap fun line => (form (trimLeft line)).map Prod.fst := by
  induction text using line_induction with
  | last line oneLine =>
      rw [cut_of_not_mem oneLine, occurrences_of_line statement shortens oneLine]
      cases found : form (trimLeft line) <;> simp [found]
  | next line below oneLine inductionHypothesis =>
      rw [cut_append_cons oneLine] at within ⊢
      obtain ⟨lineWithin, belowWithin⟩ := List.forall_mem_cons.1 within
      rw [occurrences_below statement (lineWithin below),
        occurrences_of_line statement shortens oneLine, inductionHypothesis belowWithin,
        List.filterMap_cons]
      cases form (trimLeft line) <;> rfl

end LibraryScout.Text
