import LibraryScout.Text.Blank

/-!
Contract: the occurrences of a pattern in a text, from left to right and without overlap.

A pattern is asked at one point of a text whether it matches there; it is told whether the line
has been blank so far. A match yields a value and the text after it. The scan goes on behind a
match, and one character further where there is none. A match never ends on a blank line.
-/

namespace LibraryScout.Text

/-- Whether and how a pattern matches at the start of a text. -/
abbrev Pattern (α : Type) :=
  (lineBlank : Bool) → List Char → Option (α × List Char)

/-- The text after a word that it starts with. -/
def after? : (word : List Char) → List Char → Option (List Char)
  | [], text => some text
  | _ :: _, [] => none
  | letter :: letters, character :: rest =>
      if letter = character then after? letters rest else none

/-- Whether the line is still blank after one more character. -/
def lineBlankAfter (lineBlank : Bool) (character : Char) : Bool :=
  character = '\n' || (lineBlank && isBlank character)

/-- The values of the occurrences of a pattern. A match that does not shorten the text is left
out. -/
def occurrences {α : Type} (pattern : Pattern α) (lineBlank : Bool) (text : List Char) : List α :=
  match text with
  | [] => []
  | character :: rest =>
      match pattern lineBlank (character :: rest) with
      | none => occurrences pattern (lineBlankAfter lineBlank character) rest
      | some (value, after) =>
          if after.length ≤ rest.length then
            value :: occurrences pattern false after
          else
            occurrences pattern (lineBlankAfter lineBlank character) rest
termination_by text.length
decreasing_by
  all_goals simp only [List.length_cons]; omega

theorem eq_append_of_after? {word text rest : List Char} (found : after? word text = some rest) :
    text = word ++ rest := by
  induction word generalizing text with
  | nil => simpa [after?] using found
  | cons letter letters inductionHypothesis =>
      cases text with
      | nil => simp [after?] at found
      | cons character others =>
          simp only [after?] at found
          split at found
          next same => simp [same, inductionHypothesis found]
          next => simp at found

theorem after?_append (word rest : List Char) : after? word (word ++ rest) = some rest := by
  induction word with
  | nil => rfl
  | cons letter letters inductionHypothesis => simp [after?, inductionHypothesis]

end LibraryScout.Text
