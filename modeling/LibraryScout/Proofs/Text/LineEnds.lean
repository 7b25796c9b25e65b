import LibraryScout.Proofs.Text.LineForms

/-!
Contract: texts with a carriage return before every line feed.

Owns:
- `returned`, the text with those carriage returns: what words, runs of a class and lines are taken
  from it, and that a reader of lines which overlooks them finds as much as before;
- that the same is so for a form at the start of lines that reads alike on all blank lines.

Does not own: which forms read alike.
-/

namespace LibraryScout.Text

/-- A text with a carriage return before every line feed. -/
def returned (text : List Char) : List Char :=
  text.flatMap fun character => if character = '\n' then ['\r', '\n'] else [character]

def withReturns (text : String) : String :=
  String.ofList (returned text.toList)

theorem toList_withReturns (text : String) : (withReturns text).toList = returned text.toList :=
  String.toList_ofList

theorem returned_nil : returned [] = [] := rfl

theorem returned_feed (later : List Char) :
    returned ('\n' :: later) = '\r' :: '\n' :: returned later := rfl

theorem returned_cons {character : Char} (notFeed : character ≠ '\n') (later : List Char) :
    returned (character :: later) = character :: returned later := by
  rw [returned, List.flatMap_cons, if_neg notFeed, List.singleton_append, returned]

theorem returned_append (first second : List Char) :
    returned (first ++ second) = returned first ++ returned second :=
  List.flatMap_append

theorem returned_of_oneLine {line : List Char} (oneLine : '\n' ∉ line) : returned line = line := by
  induction line with
  | nil => rfl
  | cons character later inductionHypothesis =>
      have notFeed : character ≠ '\n' := fun same => oneLine (same ▸ List.mem_cons_self)
      rw [returned_cons notFeed,
        inductionHypothesis fun member => oneLine (List.mem_cons_of_mem _ member)]

theorem returned_eq_nil_iff {text : List Char} : returned text = [] ↔ text = [] := by
  cases text with
  | nil => simp [returned_nil]
  | cons character later =>
      by_cases feed : character = '\n'
      · simp [feed, returned_feed]
      · simp [returned_cons feed]

theorem length_le_length_returned (text : List Char) : text.length ≤ (returned text).length := by
  induction text with
  | nil => exact Nat.le_refl 0
  | cons character later inductionHypothesis =>
      by_cases feed : character = '\n'
      · rw [feed, returned_feed, List.length_cons, List.length_cons, List.length_cons]
        omega
      · rw [returned_cons feed, List.length_cons, List.length_cons]
        omega

theorem length_returned_lt {text after : List Char} (behind : after <:+ text)
    (shorter : after.length < text.length) : (returned after).length < (returned text).length := by
  obtain ⟨front, rfl⟩ := behind
  have frontLength := length_le_length_returned front
  rw [List.length_append] at shorter
  rw [returned_append, List.length_append]
  omega

/-! ## Words and runs -/

theorem after?_returned {word : List Char} (noFeed : '\n' ∉ word) (noReturn : '\r' ∉ word)
    (text : List Char) : after? word (returned text) = (after? word text).map returned := by
  induction word generalizing text with
  | nil => rfl
  | cons letter letters inductionHypothesis =>
      obtain ⟨notFeed, noFeedLater⟩ := List.ne_and_not_mem_of_not_mem_cons noFeed
      obtain ⟨notReturn, noReturnLater⟩ := List.ne_and_not_mem_of_not_mem_cons noReturn
      cases text with
      | nil => rfl
      | cons character later =>
          by_cases feed : character = '\n'
          · rw [feed, returned_feed, after?, after?, if_neg (Ne.symm notReturn),
              if_neg (Ne.symm notFeed), Option.map_none]
          · rw [returned_cons feed, after?, after?]
            split
            · exact inductionHypothesis noFeedLater noReturnLater later
            · rfl

section

variable {inClass : Char → Bool}

theorem takeWhile_returned (feedOutside : inClass '\n' = false)
    (returnOutside : inClass '\r' = false) (text : List Char) :
    (returned text).takeWhile inClass = text.takeWhile inClass := by
  induction text with
  | nil => rfl
  | cons character later inductionHypothesis =>
      by_cases feed : character = '\n'
      · rw [feed, returned_feed, List.takeWhile_cons_of_neg (by simp [returnOutside]),
          List.takeWhile_cons_of_neg (by simp [feedOutside])]
      · rw [returned_cons feed, List.takeWhile_cons, List.takeWhile_cons, inductionHypothesis]

theorem StopsBefore.returned (returnOutside : inClass '\r' = false) {text : List Char}
    (stops : StopsBefore inClass text) : StopsBefore inClass (returned text) := by
  cases text with
  | nil => exact stops
  | cons character later =>
      by_cases feed : character = '\n'
      · rw [feed, returned_feed]
        rintro first ⟨⟩
        exact returnOutside
      · rw [returned_cons feed]
        rintro first ⟨⟩
        exact stops character rfl

/-- A run that takes carriage returns and line feeds alike ends at the same place. -/
theorem dropWhile_returned (alike : inClass '\r' = inClass '\n') (text : List Char) :
    (returned text).dropWhile inClass = returned (text.dropWhile inClass) := by
  induction text with
  | nil => rfl
  | cons character later inductionHypothesis =>
      by_cases feed : character = '\n'
      · rw [feed, returned_feed, List.dropWhile_cons, List.dropWhile_cons, List.dropWhile_cons,
          alike, inductionHypothesis]
        split <;> rfl
      · rw [returned_cons feed, List.dropWhile_cons, List.dropWhile_cons, inductionHypothesis]
        split
        · rfl
        · exact (returned_cons feed later).symm

end

theorem trimLeft_returned (text : List Char) :
    trimLeft (returned text) = returned (trimLeft text) :=
  dropWhile_returned rfl text

/-! ## Lines -/

theorem returned_line {line : List Char} (oneLine : '\n' ∉ line) (below : List Char) :
    returned (line ++ '\n' :: below) = (line ++ ['\r']) ++ '\n' :: returned below := by
  rw [returned_append, returned_of_oneLine oneLine, returned_feed, List.append_assoc,
    List.singleton_append]

/-- A reader of lines that overlooks a carriage return at their end reads the same lines. -/
theorem filterMap_cut_returned {β : Type} {read : List Char → Option β}
    (overlooks : ∀ line, read (line ++ ['\r']) = read line) (text : List Char) :
    (cut '\n' (returned text)).filterMap read = (cut '\n' text).filterMap read := by
  induction text using line_induction with
  | last line oneLine => rw [returned_of_oneLine oneLine]
  | next line below oneLine inductionHypothesis =>
      have oneLineThere : '\n' ∉ line ++ ['\r'] := by simpa using oneLine
      rw [returned_line oneLine, cut_append_cons oneLineThere, cut_append_cons oneLine,
        List.filterMap_cons, List.filterMap_cons, overlooks, inductionHypothesis]

/-! ## Forms at the start of lines -/

section

variable {α β : Type} {form : List Char → Option (α × List Char)} {value : α → β}

/-- What is left of a returned text is what is left of the text, a carriage return aside. -/
def SameLeft (after afterThere : List Char) : Prop :=
  afterThere = returned after ∨ afterThere = (returned after).tail

/-- What was read of a text and of the returned one is worth the same and leaves the same. -/
structure SameRead (value : α → β) (found foundThere : α × List Char) : Prop where
  worth : value foundThere.1 = value found.1
  left : SameLeft found.2 foundThere.2

/-- A form reads a text and the returned one alike. -/
def ReadsAlike (form : List Char → Option (α × List Char)) (value : α → β) (text : List Char) :
    Prop :=
  Option.Rel (SameRead value) (form text) (form (returned text))

theorem ReadsAlike.missed {text : List Char} (alike : ReadsAlike form value text)
    (missed : form text = none) : form (returned text) = none := by
  rw [ReadsAlike, missed] at alike
  cases there : form (returned text) with
  | none => rfl
  | some found =>
      rw [there] at alike
      cases alike

theorem ReadsAlike.found {text after : List Char} {found : α} (alike : ReadsAlike form value text)
    (read : form text = some (found, after)) :
    ∃ foundThere afterThere, form (returned text) = some (foundThere, afterThere) ∧
      SameRead value (found, after) (foundThere, afterThere) := by
  rw [ReadsAlike, read] at alike
  cases there : form (returned text) with
  | none =>
      rw [there] at alike
      cases alike
  | some foundThere =>
      rw [there] at alike
      cases alike with
      | some same => exact ⟨foundThere.1, foundThere.2, rfl, same⟩

theorem ReadsAlike.isSome_eq {text : List Char} (alike : ReadsAlike form value text) :
    (form (returned text)).isSome = (form text).isSome := by
  cases here : form text with
  | none => rw [alike.missed here]
  | some found =>
      obtain ⟨foundThere, afterThere, there, -⟩ := alike.found here
      rw [there]
      rfl

theorem occurrences_behind_returned_tail (text : List Char) :
    occurrences (lineForm form) false (returned text).tail =
      occurrences (lineForm form) false (returned text) := by
  cases text with
  | nil => rfl
  | cons character later =>
      by_cases feed : character = '\n'
      · rw [feed, returned_feed]
        exact (occurrences_behind_cons (by decide) _).symm
      · rw [returned_cons feed]
        exact (occurrences_behind_cons feed _).symm

/-- Where nothing is read the scan goes on with the next character, its carriage return aside. -/
theorem occurrences_returned_cons (statement : IsStatement form) {lineBlank : Bool}
    {character : Char} {later : List Char}
    (missed : lineForm form lineBlank (returned (character :: later)) = none) :
    occurrences (lineForm form) lineBlank (returned (character :: later)) =
      occurrences (lineForm form) (lineBlankAfter lineBlank character) (returned later) := by
  by_cases feed : character = '\n'
  · have missedFeed : lineForm form lineBlank ('\n' :: returned later) = none := by
      cases lineBlank with
      | false => rfl
      | true => exact statement.start (by decide)
    have stillBlank : lineBlankAfter lineBlank '\r' = lineBlank := by
      cases lineBlank <;> decide
    rw [feed, returned_feed] at missed ⊢
    rw [occurrences, missed]
    simp only [stillBlank]
    rw [occurrences, missedFeed]
  · rw [returned_cons feed] at missed ⊢
    rw [occurrences, missed]

/-- Where all statements are read alike, the scan of a text and of the returned one find what is
worth the same. -/
theorem map_occurrences_returned (statement : IsStatement form)
    (shortens : ∀ {text found after}, form text = some (found, after) →
      after.length < text.length)
    {lineBlank : Bool} {text : List Char}
    (alike : OnBlankLines (ReadsAlike form value) lineBlank text) :
    (occurrences (lineForm form) lineBlank (returned text)).map value =
      (occurrences (lineForm form) lineBlank text).map value := by
  fun_induction occurrences (lineForm form) lineBlank text with
  | case1 => rw [returned_nil, occurrences]
  | case2 lineBlank character later missed inductionHypothesis =>
      have missedThere : lineForm form lineBlank (returned (character :: later)) = none := by
        cases lineBlank with
        | false => rfl
        | true =>
            have here : ReadsAlike form value (character :: later) := alike [] _ rfl rfl
            exact here.missed missed
      rw [occurrences_returned_cons statement missedThere]
      exact inductionHypothesis alike.tail
  | case3 lineBlank character later found after matched shorter inductionHypothesis =>
      cases lineBlank with
      | false => cases matched
      | true =>
          have read : form (character :: later) = some (found, after) := matched
          have here : ReadsAlike form value (character :: later) := alike [] _ rfl rfl
          obtain ⟨foundThere, afterThere, readThere, worth, left⟩ := here.found read
          obtain ⟨front, split⟩ := statement.leaves read
          have shorterThere := length_returned_lt (statement.leaves read) (shortens read)
          -- Behind a statement no scan sees whether a carriage return was left.
          have sameBehind : occurrences (lineForm form) false afterThere =
              occurrences (lineForm form) false (returned after) := by
            rcases left with rfl | rfl
            · rfl
            · exact occurrences_behind_returned_tail after
          have shorterLeft : afterThere.length ≤ (returned after).length := by
            rcases left with rfl | rfl
            · exact Nat.le_refl _
            · exact (List.tail_suffix _).length_le
          rw [occurrences_of_statement readThere (shorterLeft.trans_lt shorterThere), sameBehind,
            List.map_cons, List.map_cons, worth, inductionHypothesis (split ▸ alike).behind]
  | case4 lineBlank character later found after matched longer inductionHypothesis =>
      cases lineBlank with
      | false => cases matched
      | true => exact absurd (Nat.le_of_lt_succ (shortens matched)) longer

end

end LibraryScout.Text
