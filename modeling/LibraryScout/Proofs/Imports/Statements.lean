import LibraryScout.Imports.Python
import LibraryScout.Proofs.Text.Pieces

/-!
Contract: the two statements of a Python source, as texts.

Owns:
- the texts of which a list is read, and those of which a path is read, for each as one statement
  in both directions;
- that reading a statement leaves less than there was.

Does not own: where statements are looked for.
-/

namespace LibraryScout.Imports.Python

open LibraryScout.Source LibraryScout.Text

/-! ## Lines -/

theorem line_append (text : List Char) : (line text).1 ++ (line text).2 = text :=
  List.takeWhile_append_dropWhile

theorem append_of_line {text first rest : List Char} (parts : line text = (first, rest)) :
    first ++ rest = text := by
  rw [← line_append text, parts]

theorem line_append_feed (text rest : List Char) :
    line (text ++ '\n' :: rest) = ((line text).1, (line text).2 ++ '\n' :: rest) := by
  have outside : (fun character : Char => decide (character ≠ '\n')) '\n' = false := by decide
  rw [line, takeWhile_append_stop outside, dropWhile_append_stop outside]
  rfl

theorem line_of_not_mem {text : List Char} (oneLine : '\n' ∉ text) : line text = (text, []) := by
  have inside := differs_of_not_mem oneLine
  rw [line, List.takeWhile_eq_self_iff.2 inside, List.dropWhile_eq_nil_iff.2 inside]

theorem line_run {list : List Char} (oneLine : '\n' ∉ list) (below : List Char) :
    line (list ++ '\n' :: below) = (list, '\n' :: below) := by
  rw [line_append_feed, line_of_not_mem oneLine, List.nil_append]

/-! ## Plain imports -/

/-- The list of a plain import may begin on a later line than the word. -/
theorem importList?_written {gap list : List Char} (isGap : IsGap gap) (nonempty : list ≠ [])
    (start : StopsBefore isBlank list) :
    importList? ("import".toList ++ (gap ++ list)) = some (line list) := by
  obtain ⟨space, others, rfl⟩ := List.exists_cons_of_ne_nil isGap.nonempty
  obtain ⟨isIt, othersBlank⟩ := List.forall_mem_cons.1 isGap.blank
  have trimmed : trimLeft (others ++ list) = list := dropWhile_run othersBlank start
  obtain ⟨first, rest, rfl⟩ := List.exists_cons_of_ne_nil nonempty
  rw [importList?, after?_append, List.cons_append]
  simp only [isIt, if_true, trimmed]

theorem importList?_eq_some_iff {text : List Char} {found : List Char × List Char} :
    importList? text = some found ↔ ∃ gap start, text = "import".toList ++ (gap ++ start) ∧
      IsGap gap ∧ start ≠ [] ∧ StopsBefore isBlank start ∧ line start = found := by
  constructor
  · intro read
    unfold importList? at read
    split at read
    · cases read
    next afterWord word =>
      obtain rfl := eq_append_of_after? word
      split at read
      · cases read
      next space behind =>
        split at read
        next blank =>
          obtain ⟨gap, whole, isGap⟩ := exists_gap blank behind
          split at read
          · cases read
          next nonempty =>
            exact ⟨gap, trimLeft behind, by rw [whole], isGap, nonempty,
              stopsBefore_dropWhile isBlank behind, Option.some.inj read⟩
        next => cases read
  · rintro ⟨gap, start, rfl, isGap, nonempty, stops, rfl⟩
    exact importList?_written isGap nonempty stops

theorem importList?_shortens {text list after : List Char}
    (read : importList? text = some (list, after)) : after.length < text.length := by
  obtain ⟨gap, start, rfl, -, -, -, parts⟩ := importList?_eq_some_iff.1 read
  have lengths := congrArg List.length (append_of_line parts)
  rw [List.length_append] at lengths
  simp only [List.length_append, String.length_toList]
  have word : "import".length = 6 := rfl
  omega

/-! ## Imports of names -/

theorem afterOneBlank?_eq_some_iff {text rest : List Char} :
    afterOneBlank? text = some rest ↔ ∃ space, text = space :: rest ∧ isBlank space = true := by
  constructor
  · intro found
    cases text with
    | nil => cases found
    | cons space later =>
        rw [afterOneBlank?] at found
        split at found
        next blank =>
          cases found
          exact ⟨space, rfl, blank⟩
        next => cases found
  · rintro ⟨space, rfl, blank⟩
    exact if_pos blank

theorem names?_eq_some_iff {text after : List Char} :
    names? text = some after ↔ ∃ before behind names,
      text = before :: ("import".toList ++ behind :: names) ∧ isBlank before = true ∧
        isBlank behind = true ∧ (line names).1 ≠ [] ∧ (line names).2 = after := by
  constructor
  · intro found
    simp only [names?, Option.bind_eq_bind, Option.bind_eq_some_iff] at found
    obtain ⟨afterPath, one, afterWord, word, names, other, read⟩ := found
    obtain ⟨before, rfl, beforeBlank⟩ := afterOneBlank?_eq_some_iff.1 one
    obtain rfl := eq_append_of_after? word
    obtain ⟨behind, rfl, behindBlank⟩ := afterOneBlank?_eq_some_iff.1 other
    refine ⟨before, behind, names, rfl, beforeBlank, behindBlank, ?_⟩
    split at read
    · cases read
    next first rest nonempty parts =>
      cases read
      rw [parts]
      exact ⟨nonempty, rfl⟩
  · rintro ⟨before, behind, names, rfl, beforeBlank, behindBlank, nonempty, rfl⟩
    have one : ∀ {space rest}, isBlank space = true → afterOneBlank? (space :: rest) = some rest :=
      fun blank => if_pos blank
    -- `nonempty` rules out the alternative without names
    simp only [names?, one beforeBlank, after?_append, one behindBlank, Option.bind_eq_bind,
      Option.bind_some]

theorem names?_suffix {text rest : List Char} (named : names? text = some rest) :
    rest <:+ text := by
  obtain ⟨before, behind, names, rfl, -, -, -, rfl⟩ := names?_eq_some_iff.1 named
  have toRest : (line names).2 <:+ names := ⟨(line names).1, line_append names⟩
  exact toRest.trans ⟨before :: ("import".toList ++ [behind]), by simp⟩

theorem not_isBlank_of_isPathChar {character : Char} (inPath : isPathChar character = true) :
    isBlank character = false := by
  rw [isPathChar, Bool.or_eq_true, decide_eq_true_eq] at inPath
  rcases inPath with word | rfl
  · exact not_isBlank_of_isWord word
  · decide

theorem stopsBefore_of_isBlank {character : Char} (blank : isBlank character = true)
    (later : List Char) : StopsBefore isPathChar (character :: later) := by
  rintro first ⟨⟩
  rw [Bool.eq_false_iff]
  intro inPath
  rw [not_isBlank_of_isPathChar inPath] at blank
  cases blank

/-- A path at the start of a text with the names behind it, and the text after their line. -/
def pathWithNames? (start : List Char) : Option (List Char × List Char) :=
  match start.takeWhile isPathChar with
  | [] => none
  | path => do
      let rest ← names? (start.dropWhile isPathChar)
      some (path, rest)

theorem sourcePath?_eq (text : List Char) :
    sourcePath? text = (after? "from".toList text).bind fun afterWord =>
      (afterOneBlank? afterWord).bind fun spaced => pathWithNames? (trimLeft spaced) := by
  rfl

/-- White space and a path behind `from` are read as such, whatever follows the path. -/
theorem sourcePath?_written {gap path behind : List Char} (isGap : IsGap gap) (nonempty : path ≠ [])
    (inPath : ∀ character ∈ path, isPathChar character = true)
    (stops : StopsBefore isPathChar behind) :
    sourcePath? ("from".toList ++ (gap ++ (path ++ behind))) =
      (names? behind).map fun rest => (path, rest) := by
  obtain ⟨first, others, rfl⟩ := List.exists_cons_of_ne_nil isGap.nonempty
  obtain ⟨firstBlank, blank⟩ := List.forall_mem_cons.1 isGap.blank
  obtain ⟨initial, later, rfl⟩ := List.exists_cons_of_ne_nil nonempty
  have blankStops : StopsBefore isBlank (initial :: later ++ behind) := by
    rintro character ⟨⟩
    exact not_isBlank_of_isPathChar (inPath initial List.mem_cons_self)
  have one : afterOneBlank? (first :: (others ++ (initial :: later ++ behind))) =
      some (others ++ (initial :: later ++ behind)) := if_pos firstBlank
  rw [sourcePath?_eq, after?_append, Option.bind_some, List.cons_append, one, Option.bind_some,
    trimLeft, dropWhile_run blank blankStops, pathWithNames?, takeWhile_run inPath stops,
    dropWhile_run inPath stops]
  cases names? behind <;> rfl

theorem sourcePath?_eq_some_iff {text path after : List Char} :
    sourcePath? text = some (path, after) ↔
      ∃ gap behind, text = "from".toList ++ (gap ++ (path ++ behind)) ∧ IsGap gap ∧ path ≠ [] ∧
        (∀ character ∈ path, isPathChar character = true) ∧ names? behind = some after := by
  constructor
  · intro read
    rw [sourcePath?_eq] at read
    obtain ⟨afterWord, word, start⟩ := Option.bind_eq_some_iff.1 read
    obtain ⟨spaced, one, found⟩ := Option.bind_eq_some_iff.1 start
    obtain rfl := eq_append_of_after? word
    obtain ⟨space, rfl, blank⟩ := afterOneBlank?_eq_some_iff.1 one
    obtain ⟨gap, whole, isGap⟩ := exists_gap blank spaced
    have parts := List.takeWhile_append_dropWhile (p := isPathChar) (l := trimLeft spaced)
    clear read start
    unfold pathWithNames? at found
    split at found
    · cases found
    next nonempty =>
      obtain ⟨rest, named, same⟩ := Option.bind_eq_some_iff.1 found
      cases same
      exact ⟨gap, _, by rw [whole, parts], isGap, nonempty,
        fun _ member => List.mem_takeWhile_imp member, named⟩
  · rintro ⟨gap, behind, rfl, isGap, nonempty, inPath, named⟩
    obtain ⟨before, last, names, rfl, beforeBlank, -⟩ := names?_eq_some_iff.1 named
    rw [sourcePath?_written isGap nonempty inPath (stopsBefore_of_isBlank beforeBlank _), named]
    rfl

theorem sourcePath?_shortens {text path after : List Char}
    (read : sourcePath? text = some (path, after)) : after.length < text.length := by
  obtain ⟨gap, behind, rfl, -, -, -, named⟩ := sourcePath?_eq_some_iff.1 read
  have left := (names?_suffix named).length_le
  simp only [List.length_append, String.length_toList]
  have word : "from".length = 4 := rfl
  omega

end LibraryScout.Imports.Python
