import LibraryScout.Text.Occurrences
import Mathlib.Data.List.Induction

/-!
Contract: the scan for a pattern, seen from the matches it finds.

Owns:
- where values come from: every value of the scan is matched somewhere in the text;
- completeness: a pattern whose matches hold no further match loses nothing to the rule that
  occurrences do not overlap, so the scan finds the values at all points of the text, in order;
  and the same for those values that pass a test, if no hidden match has such a value.

Does not own: that a given pattern is of this kind.
-/

namespace LibraryScout.Text

variable {α : Type} {pattern : Pattern α}

/-! ## Where values come from -/

/-- A pattern accepts what a form describes, on some lines at least, and leaves the end of it. -/
structure Pattern.Reads (pattern : Pattern α) (form : List Char → Option (α × List Char)) :
    Prop where
  accepts : ∀ {lineBlank text found}, pattern lineBlank text = some found → form text = some found
  leaves : ∀ {text value after}, form text = some (value, after) → after <:+ text

/-- A form at every place of a text. -/
theorem Pattern.reads_form {form : List Char → Option (α × List Char)}
    (leaves : ∀ {text value after}, form text = some (value, after) → after <:+ text) :
    Pattern.Reads (fun _ text => form text) form :=
  ⟨fun found => found, leaves⟩

/-- A form at the start of lines, white space aside. -/
def lineForm (form : List Char → Option (α × List Char)) : Pattern α :=
  fun lineBlank text => if lineBlank then form text else none

theorem Pattern.reads_lineForm {form : List Char → Option (α × List Char)}
    (leaves : ∀ {text value after}, form text = some (value, after) → after <:+ text) :
    Pattern.Reads (lineForm form) form := by
  refine ⟨?_, leaves⟩
  intro lineBlank text found accepted
  cases lineBlank with
  | false => cases accepted
  | true => exact accepted

theorem exists_form_of_mem_occurrences {form : List Char → Option (α × List Char)}
    (reads : pattern.Reads form) {lineBlank : Bool} {text : List Char} {value : α}
    (member : value ∈ occurrences pattern lineBlank text) :
    ∃ here after, here <:+ text ∧ form here = some (value, after) := by
  fun_induction occurrences pattern lineBlank text with
  | case1 => simp at member
  | case2 lineBlank character rest missed inductionHypothesis =>
      obtain ⟨here, after, inside, matched⟩ := inductionHypothesis member
      exact ⟨here, after, inside.trans (List.suffix_cons character rest), matched⟩
  | case3 lineBlank character rest first left matched shorter inductionHypothesis =>
      have accepted := reads.accepts matched
      rcases List.mem_cons.1 member with rfl | later
      · exact ⟨character :: rest, left, List.suffix_rfl, accepted⟩
      · obtain ⟨here, after, inside, laterMatched⟩ := inductionHypothesis later
        exact ⟨here, after, inside.trans (reads.leaves accepted), laterMatched⟩
  | case4 lineBlank character rest first left matched longer inductionHypothesis =>
      obtain ⟨here, after, inside, laterMatched⟩ := inductionHypothesis member
      exact ⟨here, after, inside.trans (List.suffix_cons character rest), laterMatched⟩

/-- A match that shortens the text gives a value, and the scan goes on behind it. -/
theorem occurrences_of_match {lineBlank : Bool} {text after : List Char} {value : α}
    (matched : pattern lineBlank text = some (value, after))
    (shorter : after.length < text.length) :
    occurrences pattern lineBlank text = value :: occurrences pattern false after := by
  cases text with
  | nil => cases shorter
  | cons character rest =>
      rw [occurrences, matched]
      exact if_pos (Nat.le_of_lt_succ shorter)

/-! ## Matches at all points -/

/-- Whether the line is blank behind some more characters. -/
def lineBlankThrough (lineBlank : Bool) (text : List Char) : Bool :=
  text.foldl lineBlankAfter lineBlank

theorem lineBlankThrough_append (lineBlank : Bool) (first second : List Char) :
    lineBlankThrough lineBlank (first ++ second) =
      lineBlankThrough (lineBlankThrough lineBlank first) second :=
  List.foldl_append

/-- Within a line, blankness is lost with the first character that is not white space. -/
theorem lineBlankThrough_of_line {line : List Char} (inLine : '\n' ∉ line) (lineBlank : Bool) :
    lineBlankThrough lineBlank line = (lineBlank && line.all isBlank) := by
  induction line generalizing lineBlank with
  | nil => simp [lineBlankThrough]
  | cons character rest inductionHypothesis =>
      have notFeed : character ≠ '\n' := fun same => inLine (by simp [same])
      have restInLine : '\n' ∉ rest := fun member => inLine (List.mem_cons_of_mem _ member)
      have step : lineBlankThrough lineBlank (character :: rest) =
          lineBlankThrough (lineBlankAfter lineBlank character) rest := rfl
      rw [step, inductionHypothesis restInLine, lineBlankAfter, List.all_cons, ← Bool.and_assoc]
      simp [notFeed]

/-- The start of a text, or a place just behind a line feed. -/
def StartsLine (above : List Char) : Prop :=
  above = [] ∨ above.getLast? = some '\n'

theorem lineBlankThrough_of_startsLine {above : List Char} (starts : StartsLine above) :
    lineBlankThrough true above = true := by
  rcases starts with rfl | ends
  · rfl
  · obtain ⟨before, rfl⟩ := List.getLast?_eq_some_iff.1 ends
    rw [lineBlankThrough_append]
    rfl

/-- A point of a text is reached on a blank line when white space alone stands between the start of
its line and itself. -/
theorem lineBlankThrough_eq_true_iff {before : List Char} :
    lineBlankThrough true before = true ↔
      ∃ above line, before = above ++ line ∧ StartsLine above ∧
        ∀ character ∈ line, isBlank character = true ∧ character ≠ '\n' := by
  constructor
  · intro blank
    induction before using List.reverseRecOn with
    | nil => exact ⟨[], [], rfl, Or.inl rfl, by simp⟩
    | append_singleton before character inductionHypothesis =>
        by_cases feed : character = '\n'
        · exact ⟨before ++ [character], [], by simp, Or.inr (by simp [feed]), by simp⟩
        · have step : lineBlankThrough true (before ++ [character]) =
              lineBlankAfter (lineBlankThrough true before) character :=
            lineBlankThrough_append true before [character]
          simp only [step, lineBlankAfter, feed, decide_false, Bool.false_or,
            Bool.and_eq_true] at blank
          obtain ⟨above, line, rfl, starts, blanks⟩ := inductionHypothesis blank.1
          refine ⟨above, line ++ [character], by simp, starts, ?_⟩
          intro other member
          rcases List.mem_append.1 member with earlier | last
          · exact blanks other earlier
          · obtain rfl := List.mem_singleton.1 last
            exact ⟨blank.2, feed⟩
  · rintro ⟨above, line, rfl, starts, blanks⟩
    have inLine : '\n' ∉ line := fun member => (blanks '\n' member).2 rfl
    rw [lineBlankThrough_append, lineBlankThrough_of_startsLine starts,
      lineBlankThrough_of_line inLine, Bool.true_and, List.all_eq_true]
    exact fun character member => (blanks character member).1

/-- The values of a pattern at all points of a text, whether or not their matches overlap. -/
def allMatches (pattern : Pattern α) (lineBlank : Bool) : List Char → List α
  | [] => []
  | character :: rest =>
      ((pattern lineBlank (character :: rest)).map Prod.fst).toList ++
        allMatches pattern (lineBlankAfter lineBlank character) rest

/-- A value of a pattern stands at a position of a text, the start of which is given. -/
def MatchAt (pattern : Pattern α) (lineBlank : Bool) (text : List Char) (position : Nat)
    (value : α) : Prop :=
  ∃ before here after, text = before ++ here ∧ position = before.length ∧ here ≠ [] ∧
    pattern (lineBlankThrough lineBlank before) here = some (value, after)

theorem matchAt_zero {lineBlank : Bool} {character : Char} {rest : List Char} {value : α} :
    MatchAt pattern lineBlank (character :: rest) 0 value ↔
      ∃ after, pattern lineBlank (character :: rest) = some (value, after) := by
  constructor
  · rintro ⟨before, here, after, whole, start, -, matched⟩
    obtain rfl := List.eq_nil_of_length_eq_zero start.symm
    rw [List.nil_append] at whole
    exact ⟨after, whole ▸ matched⟩
  · rintro ⟨after, matched⟩
    exact ⟨[], character :: rest, after, rfl, rfl, by simp, matched⟩

theorem matchAt_succ {lineBlank : Bool} {character : Char} {rest : List Char} {position : Nat}
    {value : α} :
    MatchAt pattern lineBlank (character :: rest) (position + 1) value ↔
      MatchAt pattern (lineBlankAfter lineBlank character) rest position value := by
  constructor
  · rintro ⟨before, here, after, whole, start, nonempty, matched⟩
    cases before with
    | nil => simp at start
    | cons first others =>
        rw [List.cons_append, List.cons.injEq] at whole
        obtain ⟨rfl, whole⟩ := whole
        exact ⟨others, here, after, whole, by simpa using start, nonempty, matched⟩
  · rintro ⟨before, here, after, whole, start, nonempty, matched⟩
    exact ⟨character :: before, here, after, by rw [whole, List.cons_append], by simp [start],
      nonempty, matched⟩

/-- Positions of a rest of a text as positions of the text with one more character before it. -/
def moved (found : List (Nat × α)) : List (Nat × α) :=
  found.map fun one => (one.1 + 1, one.2)

theorem moved_sorted {found : List (Nat × α)}
    (sorted : found.Pairwise fun earlier later => earlier.1 < later.1) :
    (moved found).Pairwise fun earlier later => earlier.1 < later.1 :=
  List.pairwise_map.2 (sorted.imp fun before => Nat.succ_lt_succ before)

theorem zero_notMem_moved (found : List (Nat × α)) (value : α) : (0, value) ∉ moved found := by
  simp [moved]

theorem succ_mem_moved {found : List (Nat × α)} {position : Nat} {value : α} :
    (position + 1, value) ∈ moved found ↔ (position, value) ∈ found := by
  simp [moved]

theorem map_snd_moved (found : List (Nat × α)) :
    (moved found).map Prod.snd = found.map Prod.snd := by
  rw [moved, List.map_map]
  rfl

/-- The values at all points, listed with their positions in the order of the text. -/
theorem exists_positions_of_allMatches (pattern : Pattern α) (lineBlank : Bool)
    (text : List Char) :
    ∃ found : List (Nat × α),
      found.Pairwise (fun earlier later => earlier.1 < later.1) ∧
        (∀ position value, (position, value) ∈ found ↔
          MatchAt pattern lineBlank text position value) ∧
        allMatches pattern lineBlank text = found.map Prod.snd := by
  induction text generalizing lineBlank with
  | nil =>
      refine ⟨[], List.Pairwise.nil, ?_, rfl⟩
      intro position value
      simp only [List.not_mem_nil, false_iff]
      rintro ⟨before, here, after, whole, -, nonempty, -⟩
      exact nonempty (List.append_eq_nil_iff.1 whole.symm).2
  | cons character rest inductionHypothesis =>
      obtain ⟨found, sorted, located, values⟩ :=
        inductionHypothesis (lineBlankAfter lineBlank character)
      cases matched : pattern lineBlank (character :: rest) with
      | none =>
          refine ⟨moved found, moved_sorted sorted, ?_, ?_⟩
          · rintro (_ | position) value
            · rw [matchAt_zero, matched]
              simp [zero_notMem_moved]
            · rw [matchAt_succ, succ_mem_moved, located]
          · rw [allMatches, matched, map_snd_moved, values]
            rfl
      | some first =>
          refine ⟨(0, first.1) :: moved found, ?_, ?_, ?_⟩
          · refine List.pairwise_cons.2 ⟨?_, moved_sorted sorted⟩
            intro later member
            obtain ⟨one, -, rfl⟩ := List.mem_map.1 member
            exact Nat.succ_pos one.1
          · rintro (_ | position) value
            · rw [matchAt_zero, matched]
              obtain ⟨value', after⟩ := first
              simp [eq_comm, zero_notMem_moved]
            · rw [matchAt_succ, ← located, List.mem_cons, succ_mem_moved]
              simp
          · rw [allMatches, matched, List.map_cons, map_snd_moved, values]
            rfl

/-! ## Patterns whose matches hide nothing -/

/-- Inside a match there is no other one, and behind it all goes on as on a line that is not
blank. -/
def Pattern.Solid (pattern : Pattern α) : Prop :=
  ∀ lineBlank text value after, pattern lineBlank text = some (value, after) →
    ∃ matched, matched ≠ [] ∧ text = matched ++ after ∧
      (∀ front back, matched = front ++ back → front ≠ [] → back ≠ [] →
        pattern (lineBlankThrough lineBlank front) (back ++ after) = none) ∧
      allMatches pattern (lineBlankThrough lineBlank matched) after =
        allMatches pattern false after

/-- A match that starts inside another one has a value that is not kept, and behind a match all
goes on as on a line that is not blank. -/
def Pattern.HidesNone (pattern : Pattern α) (keep : α → Bool) : Prop :=
  ∀ lineBlank text value after, pattern lineBlank text = some (value, after) →
    ∃ matched, matched ≠ [] ∧ text = matched ++ after ∧
      (∀ front back, matched = front ++ back → front ≠ [] → back ≠ [] →
        ∀ found ∈ pattern (lineBlankThrough lineBlank front) (back ++ after),
          keep found.1 = false) ∧
      allMatches pattern (lineBlankThrough lineBlank matched) after =
        allMatches pattern false after

theorem Pattern.Solid.hidesNone (solid : pattern.Solid) : pattern.HidesNone fun _ => true := by
  intro lineBlank text value after matched
  obtain ⟨taken, nonempty, whole, silent, resumed⟩ := solid _ _ _ _ matched
  refine ⟨taken, nonempty, whole, ?_, resumed⟩
  intro front back split frontNonempty backNonempty found member
  rw [silent front back split frontNonempty backNonempty] at member
  cases member

/-- Text whose matches have no value that is kept adds none. -/
theorem filter_allMatches_append {keep : α → Bool} {lineBlank : Bool} {inner after : List Char}
    (dropped : ∀ front back, inner = front ++ back → back ≠ [] →
      ∀ found ∈ pattern (lineBlankThrough lineBlank front) (back ++ after),
        keep found.1 = false) :
    (allMatches pattern lineBlank (inner ++ after)).filter keep =
      (allMatches pattern (lineBlankThrough lineBlank inner) after).filter keep := by
  induction inner generalizing lineBlank with
  | nil => rfl
  | cons character rest inductionHypothesis =>
      have here : ((pattern lineBlank (character :: (rest ++ after))).map Prod.fst).toList.filter
          keep = [] := by
        have droppedHere := dropped [] (character :: rest) rfl (List.cons_ne_nil character rest)
        cases found : pattern lineBlank (character :: (rest ++ after)) with
        | none => rfl
        | some one => simp [droppedHere one found]
      rw [List.cons_append, allMatches, List.filter_append, here, List.nil_append]
      apply inductionHypothesis
      intro front back split nonempty
      exact dropped (character :: front) back (by rw [split, List.cons_append]) nonempty

/-- The scan for such a pattern finds the kept values at all points of the text. -/
theorem filter_occurrences {keep : α → Bool} (hidesNone : pattern.HidesNone keep)
    (lineBlank : Bool) (text : List Char) :
    (occurrences pattern lineBlank text).filter keep =
      (allMatches pattern lineBlank text).filter keep := by
  fun_induction occurrences pattern lineBlank text with
  | case1 => rfl
  | case2 lineBlank character rest missed inductionHypothesis =>
      rw [allMatches, missed, inductionHypothesis]
      rfl
  | case3 lineBlank character rest value after matched shorter inductionHypothesis =>
      obtain ⟨taken, nonempty, whole, dropped, resumed⟩ := hidesNone _ _ _ _ matched
      cases taken with
      | nil => exact absurd rfl nonempty
      | cons first inner =>
          rw [List.cons_append, List.cons.injEq] at whole
          obtain ⟨rfl, whole⟩ := whole
          have behind : (allMatches pattern (lineBlankAfter lineBlank character) rest).filter keep =
              (allMatches pattern false after).filter keep := by
            rw [whole, ← resumed]
            refine filter_allMatches_append fun front back split backNonempty => ?_
            exact dropped (character :: front) back (by rw [split, List.cons_append])
              (List.cons_ne_nil character front) backNonempty
          rw [allMatches, matched, List.filter_append, behind, ← inductionHypothesis]
          cases kept : keep value <;> simp [kept]
  | case4 lineBlank character rest value after matched longer inductionHypothesis =>
      obtain ⟨taken, nonempty, whole, -, -⟩ := hidesNone _ _ _ _ matched
      have lengths := congrArg List.length whole
      have positive := List.length_pos_iff.2 nonempty
      rw [List.length_cons, List.length_append] at lengths
      omega

/-- The scan for a solid pattern finds the values at all points of the text. -/
theorem occurrences_eq_allMatches (solid : pattern.Solid) (lineBlank : Bool) (text : List Char) :
    occurrences pattern lineBlank text = allMatches pattern lineBlank text := by
  have all : ∀ values : List α, values.filter (fun _ => true) = values := fun _ =>
    List.filter_eq_self.2 fun _ _ => rfl
  have kept := filter_occurrences solid.hidesNone lineBlank text
  rwa [all, all] at kept

end LibraryScout.Text
