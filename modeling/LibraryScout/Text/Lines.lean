/-!
Contract: cutting a text at one character, and the lines of a text.

A piece of a cut text never holds the separator, and there is always one piece more than there
are separators. Lines in the sense of `displayLines` drop one carriage return before each line
feed and do not count an empty piece after the last line feed.
-/

namespace LibraryScout.Text

/-- The pieces between separators, empty pieces included. -/
def cut (separator : Char) : List Char → List (List Char)
  | [] => [[]]
  | character :: rest =>
      if character = separator then
        [] :: cut separator rest
      else
        match cut separator rest with
        | [] => [[character]]
        | piece :: pieces => (character :: piece) :: pieces

/-- The text before the first separator, or all of it. -/
def upTo (separator : Char) (text : List Char) : List Char :=
  text.takeWhile fun character => character ≠ separator

/-- The text before the last separator, if the text holds one. -/
def beforeLast? (separator : Char) (text : List Char) : Option (List Char) :=
  match text.reverse.dropWhile fun character => character ≠ separator with
  | [] => none
  | _ :: before => some before.reverse

/-- The text from the last separator on, if the text holds one. -/
def fromLast? (separator : Char) (text : List Char) : Option (List Char) :=
  if separator ∈ text then
    some (separator :: (text.reverse.takeWhile fun character => character ≠ separator).reverse)
  else
    none

/-- A line without one carriage return at its end. -/
def withoutReturn (line : List Char) : List Char :=
  match line.reverse with
  | '\r' :: before => before.reverse
  | _ => line

/-- The lines of a text as a reader sees them: a line feed or a carriage return with a line feed
ends a line, and a text that ends with a line feed has no further empty line. -/
def displayLines (text : List Char) : List (List Char) :=
  let pieces := cut '\n' text
  let ended := pieces.dropLast.map withoutReturn
  match pieces.getLast? with
  | none => ended
  | some [] => ended
  | some last => ended ++ [last]

/-- Texts put together with a separator between neighbours. -/
def joined (separator : String) (parts : List String) : String :=
  String.intercalate separator parts

theorem cut_ne_nil (separator : Char) (text : List Char) : cut separator text ≠ [] := by
  induction text with
  | nil => simp [cut]
  | cons character rest inductionHypothesis =>
      rw [cut]
      split
      · simp
      · split <;> simp

theorem not_mem_of_mem_cut {separator : Char} {text piece : List Char}
    (member : piece ∈ cut separator text) : separator ∉ piece := by
  induction text generalizing piece with
  | nil =>
      simp only [cut, List.mem_singleton] at member
      simp [member]
  | cons character rest inductionHypothesis =>
      rw [cut] at member
      split at member
      · rcases List.mem_cons.1 member with rfl | later
        · simp
        · exact inductionHypothesis later
      next different =>
        cases equation : cut separator rest with
        | nil => exact absurd equation (cut_ne_nil separator rest)
        | cons first others =>
            rw [equation] at member
            rcases List.mem_cons.1 member with rfl | later
            · intro inside
              rcases List.mem_cons.1 inside with same | inner
              · exact different same.symm
              · exact inductionHypothesis (by rw [equation]; simp) inner
            · exact inductionHypothesis (by rw [equation]; simp [later])

theorem cut_of_not_mem {separator : Char} {piece : List Char} (absent : separator ∉ piece) :
    cut separator piece = [piece] := by
  induction piece with
  | nil => rfl
  | cons character rest inductionHypothesis =>
      have different : character ≠ separator := fun same => absent (by simp [same])
      have absentLater : separator ∉ rest := fun member => absent (by simp [member])
      rw [cut, if_neg different, inductionHypothesis absentLater]

theorem cut_append_cons {separator : Char} {piece : List Char} (absent : separator ∉ piece)
    (rest : List Char) :
    cut separator (piece ++ separator :: rest) = piece :: cut separator rest := by
  induction piece with
  | nil => simp [cut]
  | cons character others inductionHypothesis =>
      have different : character ≠ separator := fun same => absent (by simp [same])
      have absentLater : separator ∉ others := fun member => absent (by simp [member])
      rw [List.cons_append, cut, if_neg different, inductionHypothesis absentLater]

/-- Cutting undoes joining when no part holds the separator. Joining no parts gives the empty
text, which cutting takes for one empty part. -/
theorem cut_joined {separator : Char} {parts : List String} (someParts : parts ≠ [])
    (plain : ∀ part ∈ parts, separator ∉ part.toList) :
    cut separator (joined (String.singleton separator) parts).toList =
      parts.map String.toList := by
  induction parts with
  | nil => exact absurd rfl someParts
  | cons part later inductionHypothesis =>
      have partPlain : separator ∉ part.toList := plain part List.mem_cons_self
      cases later with
      | nil =>
          rw [joined, String.intercalate_singleton, cut_of_not_mem partPlain]
          rfl
      | cons next others =>
          have laterCut := inductionHypothesis (List.cons_ne_nil next others)
            fun inner member => plain inner (List.mem_cons_of_mem part member)
          rw [joined] at laterCut ⊢
          rw [String.intercalate_cons_cons, String.toList_append, String.toList_append,
            String.toList_singleton, List.append_assoc, List.singleton_append,
            cut_append_cons partPlain, laterCut]
          rfl

end LibraryScout.Text
