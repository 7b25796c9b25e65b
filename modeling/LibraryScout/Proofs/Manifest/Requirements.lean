import LibraryScout.Manifest.Requirements
import LibraryScout.Proofs.Text.LineForms
import LibraryScout.Proofs.Text.Pieces

/-!
Contract: the names that a requirements listing holds.

Owns:
- that the scan of a listing reads each line by itself: a line adds its longest start of word
  characters, if it has one, and nothing else;
- that a listing below another one adds its own names to those of the first;
- that a name is a part of the listing and has word characters only.
-/

namespace LibraryScout.Manifest.Requirements

open LibraryScout.Source LibraryScout.Text

/-- The longest run of word characters that a line starts with, if it starts with one. -/
def leadingName? (line : List Char) : Option String :=
  if line.takeWhile isWord = [] then none else some (String.ofList (line.takeWhile isWord))

/-! ## One line -/

/-- What can stand behind a line: nothing, or a line feed and further lines. -/
def EndsLine (text : List Char) : Prop :=
  ∀ character ∈ text.head?, character = '\n'

theorem endsLine_nil : EndsLine [] := by
  simp [EndsLine]

theorem endsLine_feed (below : List Char) : EndsLine ('\n' :: below) := by
  simp [EndsLine]

section

variable {below : List Char} (ends : EndsLine below)

include ends

theorem takeWhile_isWord_append (text : List Char) :
    (text ++ below).takeWhile isWord = text.takeWhile isWord := by
  cases below with
  | nil => rw [List.append_nil]
  | cons feed later =>
      obtain rfl := ends feed rfl
      exact takeWhile_append_stop (by decide) text later

theorem dropWhile_isWord_append (text : List Char) :
    (text ++ below).dropWhile isWord = text.dropWhile isWord ++ below := by
  cases below with
  | nil => rw [List.append_nil, List.append_nil]
  | cons feed later =>
      obtain rfl := ends feed rfl
      exact dropWhile_append_stop (by decide) text later

/-- A comparator is no line feed, so no entry goes on in the next line. -/
theorem behindEntry_append (text : List Char) :
    behindEntry (text ++ below) = behindEntry text ++ below := by
  unfold behindEntry
  rw [dropWhile_isWord_append ends]
  cases text.dropWhile isWord with
  | nil =>
      cases below with
      | nil => rfl
      | cons feed later =>
          obtain rfl := ends feed rfl
          rfl
  | cons character rest =>
      simp only [List.cons_append]
      split <;> rfl

theorem names_of_endsLine (lineStart : Bool) : names lineStart below = names true below := by
  cases below with
  | nil => rw [names, names]
  | cons feed later =>
      obtain rfl := ends feed rfl
      have noWord : isWord '\n' = false := by decide
      simp [names, noWord]

/-- Once a line has started, nothing more is found in it. -/
theorem names_behind {line : List Char} (oneLine : '\n' ∉ line) :
    names false (line ++ below) = names true below := by
  induction line with
  | nil => exact names_of_endsLine ends false
  | cons character rest inductionHypothesis =>
      have noFeed : character ≠ '\n' := fun same => oneLine (by simp [same])
      have restOneLine : '\n' ∉ rest := fun member => oneLine (by simp [member])
      rw [List.cons_append, names, Bool.false_and, if_neg Bool.false_ne_true,
        decide_eq_false noFeed]
      exact inductionHypothesis restOneLine

end

theorem behindEntry_suffix (text : List Char) : behindEntry text <:+ text := by
  have left : text.dropWhile isWord <:+ text := List.dropWhile_suffix isWord
  unfold behindEntry
  split
  next => exact List.nil_suffix
  next character rest split =>
    rw [split] at left
    split
    · exact (List.suffix_cons character rest).trans left
    · exact left

/-- A line adds the name that it starts with, and the scan goes on below it. -/
theorem names_line {line below : List Char} (oneLine : '\n' ∉ line) (ends : EndsLine below) :
    names true (line ++ below) = (leadingName? line).toList ++ names true below := by
  cases line with
  | nil => rfl
  | cons character rest =>
      have noFeed : character ≠ '\n' := fun same => oneLine (by simp [same])
      have restOneLine : '\n' ∉ rest := fun member => oneLine (by simp [member])
      rw [List.cons_append, names, Bool.true_and]
      by_cases word : isWord character = true
      · have leftOneLine : '\n' ∉ behindEntry rest := fun member =>
          restOneLine ((behindEntry_suffix rest).subset member)
        rw [if_pos word, takeWhile_isWord_append ends, behindEntry_append ends,
          names_behind ends leftOneLine]
        simp [leadingName?, word]
      · rw [if_neg word, decide_eq_false noFeed, names_behind ends restOneLine]
        simp [leadingName?, word]

/-! ## All lines -/

/-- The scan of a listing reads each line by itself. -/
theorem names_eq_filterMap_lines (text : List Char) :
    names true text = (cut '\n' text).filterMap leadingName? := by
  induction text using line_induction with
  | last line oneLine =>
      have alone := names_line oneLine endsLine_nil
      rw [List.append_nil] at alone
      rw [alone, cut_of_not_mem oneLine, names]
      cases found : leadingName? line <;> simp [found]
  | next line below oneLine inductionHypothesis =>
      have noWord : isWord '\n' = false := by decide
      rw [cut_append_cons oneLine, names_line oneLine (endsLine_feed below), names, noWord,
        Bool.and_false, if_neg Bool.false_ne_true, decide_eq_true rfl, inductionHypothesis,
        List.filterMap_cons]
      cases leadingName? line <;> rfl

theorem leadingName?_eq_some {line : List Char} {name : String}
    (found : leadingName? line = some name) :
    name.toList ≠ [] ∧ name.toList <:+: line ∧
      ∀ character ∈ name.toList, isWord character = true := by
  unfold leadingName? at found
  split at found
  next => cases found
  next nonempty =>
    cases found
    rw [String.toList_ofList]
    exact ⟨nonempty, (List.takeWhile_prefix isWord).isInfix,
      fun _ member => List.mem_takeWhile_imp member⟩

/-- No name is empty, so pushing the names of a listing keeps them all. -/
theorem identifiers_extract (text : String) :
    (extract text).context.identifiers = (cut '\n' text.toList).filterMap leadingName? := by
  rw [extract, Extraction.ofContext, Context.identifiers_ofList, names_eq_filterMap_lines]
  apply List.filter_eq_self.2
  intro name member
  obtain ⟨line, -, found⟩ := List.mem_filterMap.1 member
  have nonempty := (leadingName?_eq_some found).1
  simpa using fun empty : name = "" => nonempty (by simp [empty])

/-- Identifiers of a listing are parts of it, made of word characters. -/
theorem form_of_mem_extract {text identifier : String}
    (member : identifier ∈ (extract text).context.identifiers) :
    identifier.toList <:+: text.toList ∧
      ∀ character ∈ identifier.toList, isWord character = true := by
  rw [identifiers_extract] at member
  obtain ⟨line, lineMember, found⟩ := List.mem_filterMap.1 member
  obtain ⟨-, inLine, word⟩ := leadingName?_eq_some found
  exact ⟨inLine.trans (infix_of_mem_cut lineMember), word⟩

/-- A listing holds, line by line and with repetitions, the longest start of word characters of
every line that has one; a listing below another one adds its own names to those of the first. -/
theorem listings_compose :
    (∀ text, (extract text).context.identifiers =
      (cut '\n' text.toList).filterMap leadingName?) ∧
    ∀ first second, (extract (first ++ "\n" ++ second)).context.identifiers =
      (extract first).context.identifiers ++ (extract second).context.identifiers := by
  refine ⟨identifiers_extract, ?_⟩
  intro first second
  have whole : (first ++ "\n" ++ second).toList = first.toList ++ '\n' :: second.toList := by
    simp
  rw [identifiers_extract, identifiers_extract, identifiers_extract, whole, cut_append_separator,
    List.filterMap_append]

end LibraryScout.Manifest.Requirements
