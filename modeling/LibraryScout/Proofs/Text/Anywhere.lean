import LibraryScout.Proofs.Text.Occurrences

/-!
Contract: the scan for a form that may stand anywhere in a text.

Owns:
- `Earliest`, the values that are met when the earliest match at or behind the end of the last one
  is taken again and again, stated without the scan;
- the scan finds these values and no others;
- of the values at all points it loses none that is kept, if no match starts inside another one
  unless its value is not kept.

Does not own: forms that are bound to the start of a line.
-/

namespace LibraryScout.Text

variable {α : Type} {form : List Char → Option (α × List Char)}

/-- A form at every place of a text, whatever stands before it. -/
def anywhere (form : List Char → Option (α × List Char)) : Pattern α :=
  fun _ text => form text

/-! ## Earliest matches -/

/-- The values met from left to right. `reads here value after` says that a match with a value
starts the text `here` and leaves the text `after`. Each match is the earliest one behind the
match before it, and behind the last match there is none. -/
inductive Earliest (reads : List Char → α → List Char → Prop) : List Char → List α → Prop where
  | done {text : List Char}
      (nowhere : ∀ before here, text = before ++ here → ∀ value after, ¬ reads here value after) :
      Earliest reads text []
  | next {before here after : List Char} {value : α} {later : List α}
      (first : ∀ front back, before = front ++ back → back ≠ [] →
        ∀ other rest, ¬ reads (back ++ here) other rest)
      (found : reads here value after) (behind : Earliest reads after later) :
      Earliest reads (before ++ here) (value :: later)

/-- A place without a match changes nothing for the places behind it. -/
theorem Earliest.cons {reads : List Char → α → List Char → Prop} {character : Char}
    {rest : List Char} {values : List α}
    (missed : ∀ value after, ¬ reads (character :: rest) value after)
    (behind : Earliest reads rest values) : Earliest reads (character :: rest) values := by
  cases behind with
  | done nowhere =>
      refine .done fun before here split => ?_
      cases before with
      | nil =>
          obtain rfl : character :: rest = here := split
          exact missed
      | cons first others => exact nowhere others here (List.cons.inj split).2
  | @next before here after value later first found behind =>
      rw [← List.cons_append]
      refine .next (fun front back split nonempty => ?_) found behind
      cases front with
      | nil =>
          obtain rfl : character :: before = back := split
          exact missed
      | cons initial others => exact first others back (List.cons.inj split).2 nonempty

/-! ## The scan -/

/-- Whether the line is blank does not matter to such a form. -/
theorem occurrences_anywhere (first second : Bool) (text : List Char) :
    occurrences (anywhere form) first text = occurrences (anywhere form) second text := by
  induction text generalizing first second with
  | nil => rw [occurrences, occurrences]
  | cons character rest inductionHypothesis =>
      have same : anywhere form first (character :: rest) =
          anywhere form second (character :: rest) := rfl
      rw [occurrences, occurrences, same]
      split
      · exact inductionHypothesis _ _
      · rw [inductionHypothesis (lineBlankAfter first character)]

/-- The scan passes over text at none of whose places there is a match. -/
theorem occurrences_anywhere_append {before here : List Char}
    (silent : ∀ front back, before = front ++ back → back ≠ [] → form (back ++ here) = none)
    (lineBlank : Bool) :
    occurrences (anywhere form) lineBlank (before ++ here) =
      occurrences (anywhere form) lineBlank here := by
  induction before generalizing lineBlank with
  | nil => rfl
  | cons character rest inductionHypothesis =>
      have missed : anywhere form lineBlank (character :: (rest ++ here)) = none :=
        silent [] (character :: rest) rfl (List.cons_ne_nil character rest)
      have later := inductionHypothesis fun front back split nonempty =>
        silent (character :: front) back (by rw [split, List.cons_append]) nonempty
      rw [List.cons_append, occurrences, missed]
      exact (later _).trans (occurrences_anywhere _ _ here)

section

variable {reads : List Char → α → List Char → Prop}
  (reads_iff : ∀ {text value after}, form text = some (value, after) ↔ reads text value after)
  (shortens : ∀ {text value after}, form text = some (value, after) → after.length < text.length)

include reads_iff shortens

theorem Earliest.eq_occurrences {text : List Char} {values : List α}
    (met : Earliest reads text values) : values = occurrences (anywhere form) true text := by
  have missed : ∀ {here}, (∀ value after, ¬ reads here value after) → form here = none := by
    intro here silent
    exact Option.eq_none_iff_forall_ne_some.2 fun found isIt => silent _ _ (reads_iff.1 isIt)
  induction met with
  | @done text nowhere =>
      have passed : occurrences (anywhere form) true (text ++ []) =
          occurrences (anywhere form) true [] :=
        occurrences_anywhere_append (fun front back split _ =>
          missed (nowhere front (back ++ []) (by rw [List.append_nil]; exact split))) true
      rw [List.append_nil] at passed
      rw [passed, occurrences]
  | @next before here after value later first found behind inductionHypothesis =>
      have matched := reads_iff.2 found
      rw [occurrences_anywhere_append
          (fun front back split nonempty => missed (first front back split nonempty)),
        occurrences_of_match matched (shortens matched), inductionHypothesis,
        occurrences_anywhere false true]

theorem earliest_occurrences (lineBlank : Bool) (text : List Char) :
    Earliest reads text (occurrences (anywhere form) lineBlank text) := by
  fun_induction occurrences (anywhere form) lineBlank text with
  | case1 =>
      refine .done fun before here split value after isIt => ?_
      obtain ⟨-, rfl⟩ := List.append_eq_nil_iff.1 split.symm
      exact absurd (shortens (reads_iff.2 isIt)) (Nat.not_lt_zero _)
  | case2 lineBlank character rest missed inductionHypothesis =>
      refine .cons (fun value after isIt => ?_) inductionHypothesis
      have matched : form (character :: rest) = none := missed
      rw [reads_iff.2 isIt] at matched
      cases matched
  | case3 lineBlank character rest value after matched shorter inductionHypothesis =>
      rw [← List.nil_append (character :: rest)]
      refine .next (fun front back split nonempty => ?_) (reads_iff.1 matched) inductionHypothesis
      exact absurd (List.append_eq_nil_iff.1 split.symm).2 nonempty
  | case4 lineBlank character rest value after matched longer inductionHypothesis =>
      exact absurd (Nat.le_of_lt_succ (shortens matched)) longer

/-- The scan finds the earliest matches, one behind the other, and nothing else. -/
theorem earliest_iff {text : List Char} {values : List α} :
    Earliest reads text values ↔ values = occurrences (anywhere form) true text := by
  constructor
  · exact Earliest.eq_occurrences reads_iff shortens
  · rintro rfl
    exact earliest_occurrences reads_iff shortens true text

end

/-! ## Values at all points -/

theorem allMatches_anywhere (first second : Bool) (text : List Char) :
    allMatches (anywhere form) first text = allMatches (anywhere form) second text := by
  induction text generalizing first second with
  | nil => rfl
  | cons character rest inductionHypothesis =>
      rw [allMatches, allMatches, inductionHypothesis (lineBlankAfter first character)]
      rfl

/-- For a form that may stand anywhere, only what starts inside a match can be lost. -/
theorem hidesNone_anywhere {keep : α → Bool}
    (dropped : ∀ text value after, form text = some (value, after) →
      ∃ matched, matched ≠ [] ∧ text = matched ++ after ∧
        ∀ front back, matched = front ++ back → front ≠ [] → back ≠ [] →
          ∀ found ∈ form (back ++ after), keep found.1 = false) :
    (anywhere form).HidesNone keep := by
  intro lineBlank text value after matched
  obtain ⟨taken, nonempty, whole, inside⟩ := dropped text value after matched
  exact ⟨taken, nonempty, whole, inside, allMatches_anywhere _ _ after⟩

end LibraryScout.Text
