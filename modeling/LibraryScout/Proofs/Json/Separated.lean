import LibraryScout.Proofs.Json.Layout
import LibraryScout.Proofs.Json.Literal
import LibraryScout.Proofs.Json.Places

/-!
Contract: texts with commas between them, and the bodies of arrays.

Owns:
- `Reads`, that a reader takes a text for a value and leaves what follows it, and `Finds`, that it
  takes nothing but such texts;
- `Separated`, texts with commas between them and white space wherever it may stand;
- that the body of an array is read as the items that its texts are read as, for items of any type,
  and that no other text is read as one.

White space before a text makes no difference to a reader. What follows a text must not continue a
number, which neither a comma nor a bracket nor white space does.
-/

namespace LibraryScout.Json

open LibraryScout.Text (StopsBefore dropWhile_run)

/-! ## White space -/

theorem skipSpace_append {gap text : List Char} (blank : Blank gap)
    (stops : StopsBefore isSpace text) : skipSpace (gap ++ text) = text :=
  dropWhile_run blank stops

theorem Blank.append {front back : List Char} (blankFront : Blank front) (blankBack : Blank back) :
    Blank (front ++ back) :=
  fun character member => (List.mem_append.1 member).elim (blankFront character)
    (blankBack character)

/-- What is skipped in front of a text is white space. -/
theorem exists_blank {text rest : List Char} (skipped : skipSpace text = rest) :
    ∃ gap, text = gap ++ rest ∧ Blank gap :=
  ⟨text.takeWhile isSpace, by rw [← skipped]; exact List.takeWhile_append_dropWhile.symm,
    fun _ member => List.mem_takeWhile_imp member⟩

theorem exists_blank_skipSpace (text : List Char) :
    ∃ gap, text = gap ++ skipSpace text ∧ Blank gap :=
  exists_blank rfl

theorem not_continuesNumber_of_isSpace {character : Char} (space : isSpace character = true) :
    continuesNumber character = false := by
  simp only [isSpace, Bool.or_eq_true, decide_eq_true_eq] at space
  rcases space with ((rfl | rfl) | rfl) | rfl <;> decide

/-- White space and a character after it that no number goes on with. -/
theorem stops_append {gap : List Char} (blank : Blank gap) {mark : Char}
    (ends : continuesNumber mark = false) (rest : List Char) :
    StopsBefore continuesNumber (gap ++ mark :: rest) := by
  intro character first
  cases gap with
  | nil =>
      obtain rfl := Option.some.inj first
      exact ends
  | cons space others =>
      obtain rfl := Option.some.inj first
      exact not_continuesNumber_of_isSpace (blank _ List.mem_cons_self)

/-! ## Texts that are read -/

/-- A text that opens with neither white space nor a closing bracket. -/
def Opens (text : List Char) : Prop :=
  ∃ first others, text = first :: others ∧ isSpace first = false ∧ first ≠ ']' ∧ first ≠ '\x7d'

theorem Opens.stops {text : List Char} (opens : Opens text) (rest : List Char) :
    StopsBefore isSpace (text ++ rest) := by
  obtain ⟨first, others, rfl, noSpace, _, _⟩ := opens
  intro character head
  obtain rfl := Option.some.inj head
  exact noSpace

/-- A reader takes a text for a value, after any white space, and leaves what follows. -/
def Reads {α : Type} (read : Reader α) (text : List Char) (value : α) : Prop :=
  ∀ gap rest, Blank gap → StopsBefore continuesNumber rest →
    read (gap ++ (text ++ rest)) = .ok (value, rest)

theorem Reads.bare {α : Type} {read : Reader α} {text : List Char} {value : α}
    (reads : Reads read text value) {rest : List Char}
    (stops : StopsBefore continuesNumber rest) : read (text ++ rest) = .ok (value, rest) :=
  reads [] rest blank_nil stops

/-- It is enough to read a text for which white space does not matter. -/
theorem Reads.of_skipSpace {α : Type} {read : Reader α} {text : List Char} {value : α}
    (opens : Opens text) (skips : ∀ input, read input = read (skipSpace input))
    (reads : ∀ rest, StopsBefore continuesNumber rest → read (text ++ rest) = .ok (value, rest)) :
    Reads read text value := by
  intro gap rest blank stops
  rw [skips, skipSpace_append blank (opens.stops rest)]
  exact reads rest stops

/-- Every value that a reader comes to is one of those that stand for a text of some kind, and this
text stood, after white space, in front of what is left. -/
def Finds {α β : Type} (read : Reader α) (meaning : β → α) (written : β → List Char → Prop) :
    Prop :=
  ∀ text value rest, read text = .ok (value, rest) → ∃ gap part content,
    text = gap ++ (part ++ rest) ∧ Blank gap ∧ written content part ∧ value = meaning content

/-! ## Texts with commas between them -/

/-- Texts behind another one, a comma before each. -/
inductive Following : List (List Char) → List Char → Prop where
  | close {gap : List Char} (blank : Blank gap) : Following [] gap
  | next {before behind text rest : List Char} {others : List (List Char)}
      (blankBefore : Blank before) (blankBehind : Blank behind)
      (following : Following others rest) :
      Following (text :: others) (before ++ ',' :: (behind ++ (text ++ rest)))

/-- Texts with commas between neighbours. -/
inductive Separated : List (List Char) → List Char → Prop where
  | nothing {gap : List Char} (blank : Blank gap) : Separated [] gap
  | texts {gap text rest : List Char} {others : List (List Char)} (blank : Blank gap)
      (following : Following others rest) : Separated (text :: others) (gap ++ (text ++ rest))

/-- What follows a text is a comma, or white space and the closing bracket. -/
theorem Following.stops {texts : List (List Char)} {body : List Char}
    (following : Following texts body) (closing : Char)
    (ends : continuesNumber closing = false) (rest : List Char) :
    StopsBefore continuesNumber (body ++ closing :: rest) := by
  cases following with
  | close blank => exact stops_append blank ends rest
  | next blankBefore blankBehind following =>
      have comma : continuesNumber ',' = false := by decide
      rw [List.append_assoc, List.cons_append]
      exact stops_append blankBefore comma _

theorem Following.length_le {texts : List (List Char)} {body : List Char}
    (following : Following texts body) : texts.length ≤ body.length := by
  induction following with
  | close => exact Nat.zero_le _
  | next =>
      simp only [List.length_append, List.length_cons]
      omega

/-! ## Bodies that are read -/

section

variable {gap : List Char} (blank : Blank gap) (rest : List Char)

include blank

theorem skipSpace_mark {mark : Char} (visible : isSpace mark = false) :
    skipSpace (gap ++ mark :: rest) = mark :: rest := by
  refine skipSpace_append blank fun character first => ?_
  obtain rfl := Option.some.inj first
  exact visible

theorem nextItem_close (isFirst : Bool) : nextItem isFirst (gap ++ ']' :: rest) = .ok none := by
  rw [nextItem, skipSpace_mark blank rest (by decide)]
  rfl

theorem closeList_close : closeList (gap ++ ']' :: rest) = .ok rest := by
  rw [closeList, skipSpace_mark blank rest (by decide)]
  rfl

theorem nextItem_first {text : List Char} (opens : Opens text) :
    nextItem true (gap ++ (text ++ rest)) = .ok (some (text ++ rest)) := by
  rw [nextItem, skipSpace_append blank (opens.stops rest)]
  obtain ⟨first, others, rfl, _, notClosing, _⟩ := opens
  simp

theorem nextItem_following {before text : List Char} (blankBefore : Blank before)
    (opens : Opens text) :
    nextItem false (before ++ ',' :: (gap ++ (text ++ rest))) = .ok (some (text ++ rest)) := by
  rw [nextItem, skipSpace_mark blankBefore _ (by decide)]
  split
  next nothing => cases nothing
  next closing => exact absurd (List.cons.inj closing).1 (by decide)
  next separated =>
    obtain ⟨rfl, rfl⟩ := List.cons.inj separated
    rw [if_neg Bool.false_ne_true, if_pos rfl, skipSpace_append blank (opens.stops rest)]
    obtain ⟨first, others, rfl, _, notClosing, _⟩ := opens
    split
    next nothing => cases nothing
    next closing => exact absurd (List.cons.inj closing).1 notClosing
    next => rfl

end

section

variable {α : Type} {item : Reader α} {parts : List (α × List Char)} {body : List Char}
  (reads : ∀ part ∈ parts, Reads item part.2 part.1) (opens : ∀ part ∈ parts, Opens part.2)

include reads opens

theorem items_of_following (following : Following (parts.map Prod.snd) body) (done : List α)
    {steps : Nat} (enough : parts.length < steps) (rest : List Char) :
    items item false done steps (body ++ ']' :: rest) =
      .ok (done.reverse ++ parts.map Prod.fst, rest) := by
  induction parts generalizing body done steps with
  | nil =>
      obtain ⟨more, rfl⟩ := Nat.exists_eq_succ_of_ne_zero (Nat.ne_of_gt enough)
      cases following with
      | close blank =>
          rw [items, nextItem_close blank, closeList_close blank]
          simp [Except.map]
  | cons part others inductionHypothesis =>
      obtain ⟨more, rfl⟩ := Nat.exists_eq_succ_of_ne_zero (Nat.ne_of_gt (Nat.zero_lt_of_lt enough))
      obtain ⟨readsHere, readsLater⟩ := List.forall_mem_cons.1 reads
      obtain ⟨opensHere, opensLater⟩ := List.forall_mem_cons.1 opens
      cases following with
      | next blankBefore blankBehind following =>
          have here := readsHere.bare (following.stops ']' (by decide) rest)
          have later := inductionHypothesis readsLater opensLater following (part.1 :: done)
            (Nat.lt_of_succ_lt_succ enough)
          simp only [List.append_assoc, List.cons_append]
          rw [items, nextItem_following blankBehind _ blankBefore opensHere]
          simp only [here, later]
          simp

/-- The body of an array is read as its items. -/
theorem listBody_of_separated (separated : Separated (parts.map Prod.snd) body)
    (rest : List Char) :
    listBody item (body ++ ']' :: rest) = .ok (parts.map Prod.fst, rest) := by
  cases parts with
  | nil =>
      cases separated with
      | nothing blank =>
          rw [listBody, items, nextItem_close blank, closeList_close blank]
          rfl
  | cons part others =>
      obtain ⟨readsHere, readsLater⟩ := List.forall_mem_cons.1 reads
      obtain ⟨opensHere, opensLater⟩ := List.forall_mem_cons.1 opens
      cases separated with
      | texts blank following =>
          have here := readsHere.bare (following.stops ']' (by decide) rest)
          have atLeast := following.length_le
          rw [List.length_map] at atLeast
          simp only [List.append_assoc]
          rw [listBody, items, nextItem_first blank _ opensHere]
          simp only [here]
          refine items_of_following readsLater opensLater following [part.1] ?_ rest
          simp only [List.length_append, List.length_cons]
          omega

end

/-! ## Nothing else is read -/

theorem exists_of_closeList {text rest : List Char} (closed : closeList text = .ok rest) :
    ∃ gap, text = gap ++ ']' :: rest ∧ Blank gap := by
  unfold closeList at closed
  split at closed
  · cases closed
  next skipped =>
    cases closed
    exact exists_blank skipped
  · split at closed <;> cases closed
  · cases closed

theorem exists_of_nextItem_first {text start : List Char}
    (next : nextItem true text = .ok (some start)) : ∃ gap, text = gap ++ start ∧ Blank gap := by
  unfold nextItem at next
  split at next
  · cases next
  · cases next
  next skipped =>
    cases next
    exact exists_blank skipped

theorem exists_of_nextItem_following {text start : List Char}
    (next : nextItem false text = .ok (some start)) :
    ∃ before behind, text = before ++ ',' :: (behind ++ start) ∧ Blank before ∧ Blank behind := by
  unfold nextItem at next
  split at next
  · cases next
  · cases next
  next character rest notClosing skipped =>
    rw [if_neg Bool.false_ne_true] at next
    split at next
    next comma =>
      split at next
      · cases next
      · cases next
      next =>
        cases next
        obtain ⟨before, rfl, blankBefore⟩ := exists_blank skipped
        obtain ⟨behind, whole, blankBehind⟩ := exists_blank_skipSpace rest
        exact ⟨before, behind, by rw [comma, ← whole], blankBefore, blankBehind⟩
    · cases next

section

variable {α β : Type} {item : Reader α} {meaning : β → α} {written : β → List Char → Prop}
  (finds : Finds item meaning written)

include finds

theorem exists_following_of_items {done : List α} {steps : Nat} {text rest : List Char}
    {values : List α} (read : items item false done steps text = .ok (values, rest)) :
    ∃ (parts : List (β × List Char)) (body : List Char), text = body ++ ']' :: rest ∧
      Following (parts.map Prod.snd) body ∧ (∀ part ∈ parts, written part.1 part.2) ∧
      values = done.reverse ++ parts.map fun part => meaning part.1 := by
  induction steps generalizing done text with
  | zero => cases read
  | succ steps inductionHypothesis =>
      rw [items] at read
      split at read
      · cases read
      · obtain ⟨left, closed, same⟩ := exists_of_map_eq_ok read
        cases same
        obtain ⟨gap, rfl, blank⟩ := exists_of_closeList closed
        exact ⟨[], gap, rfl, .close blank, by simp, by simp⟩
      next start next =>
        split at read
        · cases read
        next value left found =>
          obtain ⟨before, behind, rfl, blankBefore, blankBehind⟩ :=
            exists_of_nextItem_following next
          obtain ⟨gap, part, content, rfl, blank, isWritten, rfl⟩ := finds _ _ _ found
          obtain ⟨parts, body, rfl, following, allWritten, rfl⟩ := inductionHypothesis read
          refine ⟨(content, part) :: parts,
            before ++ ',' :: ((behind ++ gap) ++ (part ++ body)), by simp,
            .next blankBefore (blankBehind.append blank) following,
            List.forall_mem_cons.2 ⟨isWritten, allWritten⟩, by simp⟩

/-- Nothing else is read as the body of an array. -/
theorem exists_separated_of_listBody {text rest : List Char} {values : List α}
    (read : listBody item text = .ok (values, rest)) :
    ∃ (parts : List (β × List Char)) (body : List Char), text = body ++ ']' :: rest ∧
      Separated (parts.map Prod.snd) body ∧ (∀ part ∈ parts, written part.1 part.2) ∧
      values = parts.map fun part => meaning part.1 := by
  rw [listBody, items] at read
  split at read
  · cases read
  · obtain ⟨left, closed, same⟩ := exists_of_map_eq_ok read
    cases same
    obtain ⟨gap, rfl, blank⟩ := exists_of_closeList closed
    exact ⟨[], gap, rfl, .nothing blank, by simp, by simp⟩
  next start next =>
    split at read
    · cases read
    next value left found =>
      obtain ⟨before, rfl, blankBefore⟩ := exists_of_nextItem_first next
      obtain ⟨gap, part, content, rfl, blank, isWritten, rfl⟩ := finds _ _ _ found
      obtain ⟨parts, body, rfl, following, allWritten, rfl⟩ :=
        exists_following_of_items finds read
      refine ⟨(content, part) :: parts, (before ++ gap) ++ (part ++ body), by simp,
        .texts (blankBefore.append blank) following,
        List.forall_mem_cons.2 ⟨isWritten, allWritten⟩, by simp⟩

end

end LibraryScout.Json
