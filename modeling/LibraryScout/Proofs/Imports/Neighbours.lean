import LibraryScout.Proofs.Imports.Java
import LibraryScout.Proofs.Imports.Python
import LibraryScout.Proofs.Text.LineForms

/-!
Contract: what the lines around a line do to the packages read from it.

Owns:
- Java: a statement of a text is a statement of every text that holds the former between lines of
  its own, so nothing around a line hides it;
- Python: the one way in which a line is hidden. `Unfinished` lists the statements that break off
  where white space is expected, and `EndsAtPath` those that end before it; the line feed behind
  such a statement is taken for that white space, and the next line for its rest.
-/

namespace LibraryScout.Imports

open LibraryScout.Source LibraryScout.Text

namespace Java

/-- A statement keeps its place in a text below other lines and above any text. -/
theorem StatementAt.between {text path : List Char} {position : Nat}
    (standing : StatementAt text position path) (above below : List Char) :
    StatementAt (above ++ '\n' :: (text ++ below)) (above.length + 1 + position) path := by
  obtain ⟨upper, line, blanks, rest, rfl, rfl, starts, parts⟩ := standing
  refine ⟨above ++ '\n' :: upper, line, blanks, rest ++ below, by simp, ?_, Or.inr ?_, parts⟩
  · simp only [List.length_append, List.length_cons]
    omega
  · rcases starts with rfl | ends
    · simp
    · simp [List.getLast?_append, List.getLast?_cons, ends]

theorem paths_subset_between (text above below : List Char) :
    paths text ⊆ paths (above ++ '\n' :: (text ++ below)) := by
  intro path member
  obtain ⟨found, -, placed, values⟩ := exists_statements text
  obtain ⟨foundThere, -, placedThere, valuesThere⟩ :=
    exists_statements (above ++ '\n' :: (text ++ below))
  rw [values] at member
  obtain ⟨⟨position, path⟩, standing, rfl⟩ := List.mem_map.1 member
  have between := ((placed position path).1 standing).between above below
  rw [valuesThere]
  exact List.mem_map.2 ⟨_, (placedThere _ path).2 between, rfl⟩

theorem context_extract (text : String) : (extract text).1.context = packages text := by
  simp only [extract]
  split
  next nothing =>
    have none : (packages text).identifiers = [] := List.isEmpty_iff.1 nothing
    exact congrArg Context.mk none.symm
  next => rfl

end Java

namespace Python

/-! ## Statements that break off -/

/-- A statement that breaks off where white space is read on, and a line feed with it: behind
`import` or `from`, white space aside, or right behind the `import` of a `from` statement. -/
inductive Unfinished : List Char → Prop
  | unlisted {blanks : List Char} (blank : ∀ character ∈ blanks, isBlank character = true) :
      Unfinished ("import".toList ++ blanks)
  | sourceless {blanks : List Char} (blank : ∀ character ∈ blanks, isBlank character = true) :
      Unfinished ("from".toList ++ blanks)
  | nameless {first last : Char} {blanks path : List Char} (firstBlank : isBlank first = true)
      (blank : ∀ character ∈ blanks, isBlank character = true) (nonempty : path ≠ [])
      (inPath : ∀ character ∈ path, isPathChar character = true)
      (lastBlank : isBlank last = true) :
      Unfinished ("from".toList ++ first :: blanks ++ path ++ last :: "import".toList)

/-- The last line of a text is, behind white space, a statement that breaks off. White space and
the path of such a statement may have begun on earlier lines. -/
def EndsUnfinished (text : List Char) : Prop :=
  ∃ above indent statement, text = above ++ indent ++ statement ∧ StartsLine above ∧
    (∀ character ∈ indent, isBlank character = true ∧ character ≠ '\n') ∧ Unfinished statement

/-- A statement that ends with the path behind `from`. The line feed behind it is taken for the
blank before `import`, with which the next line may start. -/
def EndsAtPath (statement : List Char) : Prop :=
  ∃ gap path, statement = "from".toList ++ (gap ++ path) ∧ IsGap gap ∧ path ≠ [] ∧
    ∀ character ∈ path, isPathChar character = true

/-! ## Plain imports -/

theorem importList?_readsWithin {text : List Char} (finished : ¬ Unfinished text)
    (rest : List Char) : ReadsWithin importList? text rest := by
  have noFeed : '\n' ∉ "import".toList := by decide
  rw [ReadsWithin, importList?, importList?, after?_append_stop noFeed]
  cases word : after? "import".toList text with
  | none => rfl
  | some afterWord =>
      obtain rfl := eq_append_of_after? word
      cases afterWord with
      | nil => exact absurd (.unlisted (List.forall_mem_nil _)) finished
      | cons space behind =>
          by_cases blank : isBlank space = true
          · have solid : ¬ ∀ character ∈ behind, isBlank character = true := fun blanks =>
              finished (.unlisted (List.forall_mem_cons.2 ⟨blank, blanks⟩))
            have start := trimLeft_append solid ('\n' :: rest)
            cases list : trimLeft behind with
            | nil => exact absurd (List.dropWhile_eq_nil_iff.1 list) solid
            | cons first others =>
                rw [list] at start
                have cutLine := line_append_feed (first :: others) rest
                simp only [Option.map_some, List.cons_append, blank, start, list]
                rw [← List.cons_append, cutLine]
                rfl
          · simp [blank]

theorem importList?_eq_none {text : List Char} (unfinished : Unfinished text) :
    importList? text = none := by
  cases unfinished with
  | unlisted blank =>
      rw [importList?, after?_append]
      rename_i blanks
      cases blanks with
      | nil => rfl
      | cons space others => simp [trimLeft_eq_nil (List.forall_mem_cons.1 blank).2]
  | sourceless => rfl
  | nameless => rfl

theorem importList?_isStatement : IsStatement importList? where
  leaves := importList?_suffix
  start := by
    intro character text blank
    have different : 'i' ≠ character := by
      rintro rfl
      exact absurd blank (by decide)
    simp [importList?, after?, different]
  finished rest found := by
    refine importList?_readsWithin (fun unfinished => ?_) rest
    rw [importList?_eq_none unfinished] at found
    cases found

/-! ## Imports of names -/

theorem afterOneBlank?_append {text : List Char} (nonempty : text ≠ []) (rest : List Char) :
    afterOneBlank? (text ++ rest) = (afterOneBlank? text).map (· ++ rest) := by
  cases text with
  | nil => exact absurd rfl nonempty
  | cons character later =>
      rw [List.cons_append, afterOneBlank?, afterOneBlank?]
      split <;> rfl

/-- What stands behind a path is read within its line, unless it breaks off behind the word, or
is nothing and the next line goes on with the word. -/
theorem names?_append_feed {text rest : List Char}
    (named : ∀ last, isBlank last = true → text ≠ last :: "import".toList)
    (apart : text = [] → after? "import".toList rest = none) :
    names? (text ++ '\n' :: rest) = (names? text).map (· ++ '\n' :: rest) := by
  have noFeed : '\n' ∉ "import".toList := by decide
  cases text with
  | nil =>
      have feed : afterOneBlank? ('\n' :: rest) = some rest := rfl
      simp only [names?, List.nil_append, feed, Option.bind_eq_bind, Option.bind_some, apart,
        Option.bind_none]
      rfl
  | cons blank afterPath =>
      have nonempty : blank :: afterPath ≠ [] := List.cons_ne_nil blank afterPath
      by_cases isIt : isBlank blank = true
      · have one : afterOneBlank? (blank :: afterPath) = some afterPath := if_pos isIt
        simp only [names?, afterOneBlank?_append nonempty, one, Option.bind_eq_bind,
          Option.map_some, Option.bind_some, after?_append_stop noFeed]
        cases word : after? "import".toList afterPath with
        | none => rfl
        | some afterWord =>
            have whole := eq_append_of_after? word
            cases afterWord with
            | nil => exact absurd (by rw [whole, List.append_nil]) (named blank isIt)
            | cons space names =>
                have spaced := afterOneBlank?_append (List.cons_ne_nil space names) ('\n' :: rest)
                simp only [Option.map_some, Option.bind_some, spaced]
                cases afterOneBlank? (space :: names) with
                | none => rfl
                | some names =>
                    simp only [Option.map_some, Option.bind_some, line_append_feed]
                    rcases line names with ⟨_ | _, _⟩ <;> rfl
      · have none : afterOneBlank? (blank :: afterPath) = none := if_neg isIt
        simp only [names?, afterOneBlank?_append nonempty, none, Option.bind_eq_bind,
          Option.map_none, Option.bind_none]

theorem pathWithNames?_append_feed {start rest : List Char}
    (named : ∀ last, isBlank last = true → ∀ path, path ≠ [] →
      (∀ character ∈ path, isPathChar character = true) →
        start ≠ path ++ last :: "import".toList)
    (apart : start ≠ [] → (∀ character ∈ start, isPathChar character = true) →
      after? "import".toList rest = none) :
    pathWithNames? (start ++ '\n' :: rest) =
      (pathWithNames? start).map fun found => (found.1, found.2 ++ '\n' :: rest) := by
  have outside : isPathChar '\n' = false := by decide
  have parts := List.takeWhile_append_dropWhile (p := isPathChar) (l := start)
  have inPath : ∀ character ∈ start.takeWhile isPathChar, isPathChar character = true :=
    fun _ member => List.mem_takeWhile_imp member
  simp only [pathWithNames?, takeWhile_append_stop outside, dropWhile_append_stop outside]
  cases path : start.takeWhile isPathChar with
  | nil => rfl
  | cons first others =>
      rw [path] at parts inPath
      have behind : names? (start.dropWhile isPathChar ++ '\n' :: rest) =
          (names? (start.dropWhile isPathChar)).map (· ++ '\n' :: rest) := by
        refine names?_append_feed (fun last isIt same => ?_) (fun nothing => ?_)
        · rw [same] at parts
          exact named last isIt _ (List.cons_ne_nil first others) inPath parts.symm
        · rw [nothing, List.append_nil] at parts
          exact apart (parts ▸ List.cons_ne_nil first others) (parts ▸ inPath)
      simp only [behind, Option.bind_eq_bind]
      cases names? (start.dropWhile isPathChar) <;> rfl

theorem sourcePath?_readsWithin {text rest : List Char} (finished : ¬ Unfinished text)
    (apart : EndsAtPath text → after? "import".toList rest = none) :
    ReadsWithin sourcePath? text rest := by
  have noFeed : '\n' ∉ "from".toList := by decide
  rw [ReadsWithin, sourcePath?_eq, sourcePath?_eq, after?_append_stop noFeed]
  cases word : after? "from".toList text with
  | none => rfl
  | some afterWord =>
      obtain rfl := eq_append_of_after? word
      cases afterWord with
      | nil => exact absurd (.sourceless (List.forall_mem_nil _)) finished
      | cons space behind =>
          by_cases blank : isBlank space = true
          · have one : afterOneBlank? (space :: behind) = some behind := if_pos blank
            have oneThere : afterOneBlank? (space :: behind ++ '\n' :: rest) =
                some (behind ++ '\n' :: rest) := if_pos blank
            have solid : ¬ ∀ character ∈ behind, isBlank character = true := fun blanks =>
              finished (.sourceless (List.forall_mem_cons.2 ⟨blank, blanks⟩))
            have parts := List.takeWhile_append_dropWhile (p := isBlank) (l := behind)
            have blanks : ∀ character ∈ behind.takeWhile isBlank, isBlank character = true :=
              fun _ member => List.mem_takeWhile_imp member
            rw [← trimLeft] at parts
            simp only [Option.bind_some, Option.map_some, one, oneThere, trimLeft_append solid]
            refine pathWithNames?_append_feed (fun last isIt path nonempty inPath same => ?_)
              (fun nonempty inPath => apart ⟨space :: behind.takeWhile isBlank, trimLeft behind, ?_,
                ⟨List.cons_ne_nil _ _, List.forall_mem_cons.2 ⟨blank, blanks⟩⟩, nonempty, inPath⟩)
            · rw [same] at parts
              have shape : "from".toList ++ space :: behind = "from".toList ++
                  space :: behind.takeWhile isBlank ++ path ++ last :: "import".toList := by
                rw [List.append_assoc, List.append_assoc, List.cons_append, parts]
              exact finished (shape ▸ .nameless blank blanks nonempty inPath isIt)
            · rw [List.cons_append, parts]
          · have none : ∀ text, afterOneBlank? (space :: text) = none := fun _ => if_neg blank
            simp only [Option.bind_some, Option.map_some, List.cons_append, none, Option.bind_none,
              Option.map_none]

theorem sourcePath?_eq_none {text : List Char} (unfinished : Unfinished text) :
    sourcePath? text = none := by
  cases unfinished with
  | unlisted => rfl
  | @sourceless blanks blank =>
      rw [sourcePath?_eq, after?_append, Option.bind_some]
      cases blanks with
      | nil => rfl
      | cons space others =>
          obtain ⟨isIt, rest⟩ := List.forall_mem_cons.1 blank
          have one : afterOneBlank? (space :: others) = some others := if_pos isIt
          rw [one, Option.bind_some, trimLeft_eq_nil rest]
          rfl
  | @nameless first last blanks path firstBlank blank nonempty inPath lastBlank =>
      have isGap : IsGap (first :: blanks) :=
        ⟨List.cons_ne_nil _ _, List.forall_mem_cons.2 ⟨firstBlank, blank⟩⟩
      have oneThere : afterOneBlank? (last :: "import".toList) = some "import".toList :=
        if_pos lastBlank
      have noNames : names? (last :: "import".toList) = none := by
        rw [names?, oneThere]
        rfl
      rw [List.append_assoc, List.append_assoc,
        sourcePath?_written isGap nonempty inPath (stopsBefore_of_isBlank lastBlank _), noNames]
      rfl

theorem EndsAtPath.sourcePath?_eq_none {text : List Char} (ends : EndsAtPath text) :
    sourcePath? text = none := by
  obtain ⟨gap, path, rfl, isGap, nonempty, inPath⟩ := ends
  have stops : StopsBefore isPathChar [] := by
    rintro character ⟨⟩
  have read := sourcePath?_written isGap nonempty inPath stops
  rw [List.append_nil] at read
  rw [read]
  rfl

theorem sourcePath?_isStatement : IsStatement sourcePath? where
  leaves := sourcePath?_suffix
  start := by
    intro character text blank
    have different : 'f' ≠ character := by
      rintro rfl
      exact absurd blank (by decide)
    simp [sourcePath?, after?, different]
  finished rest found := by
    refine sourcePath?_readsWithin (fun unfinished => ?_) (fun ends => ?_)
    · rw [sourcePath?_eq_none unfinished] at found
      cases found
    · rw [ends.sourcePath?_eq_none] at found
      cases found

/-- A line with a `from` statement does not start with the word `import`. -/
theorem after?_import_eq_none {line path : List Char} (oneLine : '\n' ∉ line)
    (member : path ∈ sourcePaths line) (below : List Char) :
    after? "import".toList (line ++ below) = none := by
  obtain ⟨blanks, here, after, rfl, blank, -, found⟩ :=
    exists_statement_of_mem sourcePath?_isStatement member
  have blanksInLine : '\n' ∉ blanks := fun inside => oneLine (List.mem_append_left here inside)
  rw [lineBlankThrough_of_line blanksInLine, Bool.true_and, List.all_eq_true] at blank
  rw [Option.eq_none_iff_forall_ne_some]
  intro rest word
  have whole := eq_append_of_after? word
  cases blanks with
  | nil =>
      rw [sourcePath?_eq] at found
      obtain ⟨afterWord, fromWord, -⟩ := Option.bind_eq_some_iff.1 found
      rw [eq_append_of_after? fromWord] at whole
      exact absurd (congrArg List.head? whole) (by simp)
  | cons space others =>
      obtain rfl : space = 'i' := by simpa using congrArg List.head? whole
      exact absurd (blank 'i' List.mem_cons_self) (by decide)

/-! ## Sources -/

theorem not_unfinished_of_lineBlank {text before here : List Char}
    (finished : ¬ EndsUnfinished text) (split : text = before ++ here)
    (blank : lineBlankThrough true before = true) : ¬ Unfinished here := by
  intro unfinished
  obtain ⟨above, indent, rfl, starts, blanks⟩ := lineBlankThrough_eq_true_iff.1 blank
  exact finished ⟨above, indent, here, split, starts, blanks, unfinished⟩

theorem importLists_subset_between {above line : List Char} (oneLine : '\n' ∉ line)
    (finished : ¬ EndsUnfinished above) (below : List Char) :
    importLists line ⊆ importLists (above ++ '\n' :: (line ++ '\n' :: below)) := by
  intro list member
  refine mem_occurrences_between importList?_isStatement oneLine ?_ member
  intro before here split blank
  exact importList?_readsWithin (not_unfinished_of_lineBlank finished split blank) _

theorem sourcePaths_subset_between {above line : List Char} (oneLine : '\n' ∉ line)
    (finished : ¬ EndsUnfinished above) (below : List Char) :
    sourcePaths line ⊆ sourcePaths (above ++ '\n' :: (line ++ '\n' :: below)) := by
  intro path member
  refine mem_occurrences_between sourcePath?_isStatement oneLine ?_ member
  intro before here split blank
  exact sourcePath?_readsWithin (not_unfinished_of_lineBlank finished split blank)
    fun _ => after?_import_eq_none oneLine member _

/-- What breaks off ends with white space or with the last letter of one of the words. -/
theorem Unfinished.getLast? {statement : List Char} (unfinished : Unfinished statement) :
    ∃ last, statement.getLast? = some last ∧ (isBlank last = true ∨ last ∈ ['t', 'm']) := by
  have ofBlanks : ∀ {word blanks : List Char} {letter : Char}, word.getLast? = some letter →
      letter ∈ ['t', 'm'] → (∀ character ∈ blanks, isBlank character = true) →
        ∃ last, (word ++ blanks).getLast? = some last ∧
          (isBlank last = true ∨ last ∈ ['t', 'm']) := by
    intro word blanks letter ends inWord blank
    cases last : blanks.getLast? with
    | none => exact ⟨letter, by simp [List.getLast?_append, last, ends], Or.inr inWord⟩
    | some character =>
        exact ⟨character, by simp [List.getLast?_append, last],
          Or.inl (blank character (List.mem_of_getLast? last))⟩
  cases unfinished with
  | unlisted blank => exact ofBlanks rfl (by decide) blank
  | sourceless blank => exact ofBlanks rfl (by decide) blank
  | nameless => exact ⟨'t', by rw [List.getLast?_append]; rfl, Or.inr (by decide)⟩

theorem not_endsUnfinished_of_getLast? {text : List Char} {last : Char}
    (ends : text.getLast? = some last) (solid : isBlank last = false)
    (noWord : last ∉ ['t', 'm']) : ¬ EndsUnfinished text := by
  rintro ⟨above, indent, statement, rfl, -, -, unfinished⟩
  obtain ⟨last', statementEnds, inClass⟩ := unfinished.getLast?
  obtain rfl : last' = last := by simpa [List.getLast?_append, statementEnds] using ends
  rcases inClass with blank | inWord
  · rw [solid] at blank
    cases blank
  · exact noWord inWord

/-! ## What is hidden -/

/-- A plain import that breaks off takes the next line for its list, whatever statement that line
is, and the scan goes on below it. -/
theorem importLists_below_unlisted {blanks line : List Char}
    (blank : ∀ character ∈ blanks, isBlank character = true) (nonempty : line ≠ [])
    (start : StopsBefore isBlank line) (oneLine : '\n' ∉ line) (below : List Char) :
    importLists ("import".toList ++ blanks ++ '\n' :: (line ++ '\n' :: below)) =
      line :: importLists below := by
  have isGap : IsGap (blanks ++ ['\n']) :=
    ⟨by simp, List.forall_mem_append.2 ⟨blank, List.forall_mem_singleton.2 rfl⟩⟩
  have goesOn : StopsBefore isBlank (line ++ '\n' :: below) := by
    cases line with
    | nil => exact absurd rfl nonempty
    | cons first others => simpa [StopsBefore] using start
  have taken := importList?_written isGap (by simp) goesOn
  rw [line_run oneLine below] at taken
  have shape : "import".toList ++ blanks ++ '\n' :: (line ++ '\n' :: below) =
      "import".toList ++ (blanks ++ ['\n'] ++ (line ++ '\n' :: below)) := by simp
  have scanned := occurrences_of_statement taken (by simp; omega)
  rw [shape]
  exact scanned.trans (congrArg (List.cons line) (occurrences_feed below))

end Python

/-- Java: whatever stands in the lines above and below, the packages of a line are among those of
the whole text. Python: the same holds unless the text above ends with a statement that breaks
off where white space is read on. -/
theorem line_packages_kept {above line below identifier : String} (oneLine : '\n' ∉ line.toList) :
    (identifier ∈ (Java.extract line).1.context.identifiers →
      identifier ∈
        (Java.extract (above ++ "\n" ++ line ++ "\n" ++ below)).1.context.identifiers) ∧
    (¬ Python.EndsUnfinished above.toList →
      identifier ∈ (Python.extract line).context.identifiers →
        identifier ∈
          (Python.extract (above ++ "\n" ++ line ++ "\n" ++ below)).context.identifiers) := by
  have whole : (above ++ "\n" ++ line ++ "\n" ++ below).toList =
      above.toList ++ '\n' :: (line.toList ++ '\n' :: below.toList) := by
    simp
  refine ⟨fun member => ?_, fun finished member => ?_⟩
  · rw [Java.context_extract, Java.packages, Context.mem_unique] at member ⊢
    obtain ⟨inLine, nonempty⟩ := member
    obtain ⟨path, pathMember, rfl⟩ := List.mem_map.1 inLine
    rw [whole]
    exact ⟨List.mem_map_of_mem (Java.paths_subset_between _ _ _ pathMember), nonempty⟩
  · rw [Python.extract, Extraction.ofContext, Python.packages, Context.mem_unique,
      List.mem_append] at member ⊢
    obtain ⟨inLine, nonempty⟩ := member
    rw [whole]
    refine ⟨?_, nonempty⟩
    rcases inLine with plain | source
    · obtain ⟨list, listMember, named⟩ := List.mem_flatMap.1 plain
      have kept := Python.importLists_subset_between oneLine finished below.toList listMember
      exact Or.inl (List.mem_flatMap.2 ⟨list, kept, named⟩)
    · obtain ⟨path, pathMember, rfl⟩ := List.mem_map.1 source
      have kept := Python.sourcePaths_subset_between oneLine finished below.toList pathMember
      exact Or.inr (List.mem_map_of_mem kept)

/-- Both lines stand below lines of statements, and above the start of one. -/
theorem line_packages_kept_between_statements :
    '\n' ∉ "import a.b.C;".toList ∧ '\n' ∉ "    from b.c import d".toList ∧
      ¬ Python.EndsUnfinished "import a\ndef f():".toList ∧
      "a.b" ∈ (Java.extract
        ("import x.y" ++ "\n" ++ "import a.b.C;" ++ "\n" ++ "import z.")).1.context.identifiers ∧
      "b" ∈ (Python.extract ("import a\ndef f():" ++ "\n" ++ "    from b.c import d" ++ "\n" ++
        "import")).context.identifiers := by
  have javaLine : '\n' ∉ "import a.b.C;".toList := by decide
  have pythonLine : '\n' ∉ "    from b.c import d".toList := by decide
  have colon : "import a\ndef f():".toList.getLast? = some ':' := by decide
  have finished := Python.not_endsUnfinished_of_getLast? colon (by decide) (by decide)
  exact ⟨javaLine, pythonLine, finished, (line_packages_kept javaLine).1 (by decide +kernel),
    (line_packages_kept pythonLine).2 finished (by decide +kernel)⟩

/-- A line is hidden below an import that breaks off: what is taken for its list is the line. -/
theorem line_packages_lost_below_import :
    '\n' ∉ "import os".toList ∧ "os" ∈ (Python.extract "import os").context.identifiers ∧
      "os" ∉
        (Python.extract ("import" ++ "\n" ++ "import os" ++ "\n" ++ "")).context.identifiers := by
  decide +kernel

end LibraryScout.Imports
