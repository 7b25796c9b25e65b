import LibraryScout.Proofs.Imports.Neighbours

/-!
Contract: a Python source whose lines are complete is read line by line.

Owns:
- `Lists` and `Names`, the two statements as texts, and that they are what is read of a line;
- `Complete`, the lines from which no statement goes on in the next line;
- the packages of a source of such lines, which every line adds to by itself.

Does not own: what is read where a statement does go on in the next line.
-/

namespace LibraryScout.Imports.Python

open LibraryScout.Source LibraryScout.Text

/-! ## Statements -/

/-- Behind white space, a text of some kind makes up a line. -/
def Indented (isStatement : List Char → Prop) (line : List Char) : Prop :=
  ∃ indent statement, line = indent ++ statement ∧
    (∀ character ∈ indent, isBlank character = true) ∧ isStatement statement

theorem indented_iff {isStatement : List Char → Prop} {line : List Char}
    (start : ∀ statement, isStatement statement → StopsBefore isBlank statement) :
    Indented isStatement line ↔ isStatement (trimLeft line) := by
  constructor
  · rintro ⟨indent, statement, rfl, blank, isIt⟩
    rwa [trimLeft, dropWhile_run blank (start statement isIt)]
  · intro isIt
    exact ⟨line.takeWhile isBlank, trimLeft line, List.takeWhile_append_dropWhile.symm,
      fun _ member => List.mem_takeWhile_imp member, isIt⟩

/-- A plain import of a list. -/
def Lists (list statement : List Char) : Prop :=
  ∃ gap, statement = "import".toList ++ (gap ++ list) ∧ IsGap gap ∧ list ≠ [] ∧
    StopsBefore isBlank list

/-- An import of names from a path. -/
def Names (path statement : List Char) : Prop :=
  ∃ gap before behind names,
    statement =
      "from".toList ++ (gap ++ (path ++ before :: ("import".toList ++ behind :: names))) ∧
    IsGap gap ∧ path ≠ [] ∧ (∀ character ∈ path, isPathChar character = true) ∧
      isBlank before = true ∧ isBlank behind = true ∧ names ≠ []

theorem stopsBefore_of_word {statement : List Char} {letter : Char} {letters rest : List Char}
    (whole : statement = letter :: letters ++ rest) (solid : isBlank letter = false) :
    StopsBefore isBlank statement := by
  rintro character first
  rw [whole, List.cons_append, List.head?_cons, Option.mem_some_iff] at first
  exact first ▸ solid

theorem Lists.stopsBefore {list statement : List Char} (lists : Lists list statement) :
    StopsBefore isBlank statement := by
  obtain ⟨gap, whole, -⟩ := lists
  exact stopsBefore_of_word whole (by decide)

theorem Names.stopsBefore {path statement : List Char} (names : Names path statement) :
    StopsBefore isBlank statement := by
  obtain ⟨gap, before, behind, names, whole, -⟩ := names
  exact stopsBefore_of_word whole (by decide)

/-! ## Statements of one line -/

/-- Of a statement of one line the list is read, and all of it. -/
theorem importList?_eq_some_iff_lists {statement list : List Char} (oneLine : '\n' ∉ statement) :
    (importList? statement).map Prod.fst = some list ↔ Lists list statement := by
  constructor
  · intro read
    obtain ⟨⟨list, after⟩, found, rfl⟩ := Option.map_eq_some_iff.1 read
    obtain ⟨gap, start, rfl, isGap, nonempty, stops, parts⟩ := importList?_eq_some_iff.1 found
    have startOneLine : '\n' ∉ start := fun member =>
      oneLine (List.mem_append_right _ (List.mem_append_right gap member))
    rw [line_of_not_mem startOneLine, Prod.mk.injEq] at parts
    obtain ⟨rfl, -⟩ := parts
    exact ⟨gap, rfl, isGap, nonempty, stops⟩
  · rintro ⟨gap, rfl, isGap, nonempty, stops⟩
    have listOneLine : '\n' ∉ list := fun member =>
      oneLine (List.mem_append_right _ (List.mem_append_right gap member))
    rw [importList?_written isGap nonempty stops, line_of_not_mem listOneLine]
    rfl

/-- Of a statement of one line the path is read. -/
theorem sourcePath?_eq_some_iff_names {statement path : List Char} (oneLine : '\n' ∉ statement) :
    (sourcePath? statement).map Prod.fst = some path ↔ Names path statement := by
  constructor
  · intro read
    obtain ⟨⟨path, after⟩, found, rfl⟩ := Option.map_eq_some_iff.1 read
    obtain ⟨gap, _, rfl, isGap, nonempty, inPath, named⟩ := sourcePath?_eq_some_iff.1 found
    obtain ⟨before, behind, names, rfl, beforeBlank, behindBlank, someNames, -⟩ :=
      names?_eq_some_iff.1 named
    refine ⟨gap, before, behind, names, rfl, isGap, nonempty, inPath, beforeBlank, behindBlank, ?_⟩
    rintro rfl
    exact someNames rfl
  · rintro ⟨gap, before, behind, names, rfl, isGap, nonempty, inPath, beforeBlank, behindBlank,
      someNames⟩
    have namesOneLine : '\n' ∉ names := fun member => oneLine (by simp [member])
    have named := names?_eq_some_iff.2 ⟨before, behind, names, rfl, beforeBlank, behindBlank,
      by rwa [line_of_not_mem namesOneLine], rfl⟩
    rw [sourcePath?_eq_some_iff.2 ⟨gap, _, rfl, isGap, nonempty, inPath, named⟩]
    rfl

/-! ## Complete lines -/

/-- A line in which no statement is left open: white space aside, it is not a statement that breaks
off, and it does not end with the path behind `from`. -/
def Complete (line : List Char) : Prop :=
  ¬ Indented Unfinished line ∧ ¬ Indented EndsAtPath line

theorem Complete.within {line : List Char} (complete : Complete line) (oneLine : '\n' ∉ line)
    (rest : List Char) :
    AllWithin importList? true line rest ∧ AllWithin sourcePath? true line rest := by
  have indented : ∀ {isStatement : List Char → Prop} {before here}, line = before ++ here →
      lineBlankThrough true before = true → isStatement here → Indented isStatement line := by
    intro isStatement before here split blank isIt
    have beforeOneLine : '\n' ∉ before := fun member =>
      oneLine (split ▸ List.mem_append_left here member)
    rw [lineBlankThrough_of_line beforeOneLine, Bool.true_and, List.all_eq_true] at blank
    exact ⟨before, here, split, blank, isIt⟩
  constructor
  · intro before here split blank
    have finished := fun unfinished => complete.1 (indented split blank unfinished)
    exact importList?_readsWithin finished rest
  · intro before here split blank
    have finished := fun unfinished => complete.1 (indented split blank unfinished)
    exact sourcePath?_readsWithin finished
      fun ends => absurd (indented split blank ends) complete.2

/-- What is open ends with white space or with a character of a path. -/
theorem getLast?_of_open {statement : List Char}
    (isOpen : Unfinished statement ∨ EndsAtPath statement) :
    ∃ last, statement.getLast? = some last ∧ (isBlank last = true ∨ isPathChar last = true) := by
  rcases isOpen with unfinished | ⟨gap, path, rfl, -, nonempty, inPath⟩
  · obtain ⟨last, ends, blank | inWord⟩ := unfinished.getLast?
    · exact ⟨last, ends, Or.inl blank⟩
    · refine ⟨last, ends, Or.inr ?_⟩
      simp only [List.mem_cons, List.not_mem_nil, or_false] at inWord
      rcases inWord with rfl | rfl <;> decide
  · refine ⟨path.getLast nonempty, ?_, Or.inr (inPath _ (List.getLast_mem nonempty))⟩
    rw [List.getLast?_append, List.getLast?_append, List.getLast?_eq_some_getLast nonempty]
    rfl

/-- A line that ends with neither white space nor a character of a path is complete. -/
theorem complete_of_getLast? {line : List Char}
    (ends : line.getLast?.all (fun last => !isBlank last && !isPathChar last) = true) :
    Complete line := by
  have noneOpen : ∀ indent statement, line = indent ++ statement →
      ¬ (Unfinished statement ∨ EndsAtPath statement) := by
    rintro indent statement rfl isOpen
    obtain ⟨last, lastOf, inClass⟩ := getLast?_of_open isOpen
    have whole : (indent ++ statement).getLast? = some last := by
      rw [List.getLast?_append, lastOf]
      rfl
    rw [whole, Option.all_some, Bool.and_eq_true, Bool.not_eq_true', Bool.not_eq_true'] at ends
    rw [ends.1, ends.2] at inClass
    rcases inClass with blank | inPath
    · cases blank
    · cases inPath
  constructor
  · rintro ⟨indent, statement, whole, -, unfinished⟩
    exact noneOpen indent statement whole (Or.inl unfinished)
  · rintro ⟨indent, statement, whole, -, atPath⟩
    exact noneOpen indent statement whole (Or.inr atPath)

/-! ## Sources -/

/-- The extraction of a text is put together from its lines: first comes what stands in the lists
of the plain imports, without comments, new names and lower levels, then the top levels of the
paths from which names are imported. Lines of no such form add nothing. -/
def ReadByLine (text : String) (extraction : Extraction) : Prop :=
  ∃ listOf? sourceOf? : List Char → Option (List Char),
    (∀ line ∈ cut '\n' text.toList, ∀ list,
      listOf? line = some list ↔ Indented (Lists list) line) ∧
    (∀ line ∈ cut '\n' text.toList, ∀ path,
      sourceOf? line = some path ↔ Indented (Names path) line) ∧
    let lists := (cut '\n' text.toList).filterMap listOf?
    let sources := (cut '\n' text.toList).filterMap sourceOf?
    let clauses := lists.flatMap fun list => cut ',' (upTo '#' list)
    let paths := clauses.filterMap firstToken? ++ sources
    extraction = ⟨⟨((paths.map fun path => String.ofList (upTo '.' path)).filter
      fun package => package ≠ "").eraseDups⟩, .python, []⟩

theorem indented_iff_of_line {form : List Char → Option (List Char × List Char)}
    {isStatement : List Char → List Char → Prop}
    (start : ∀ value statement, isStatement value statement → StopsBefore isBlank statement)
    (read : ∀ {statement value}, '\n' ∉ statement →
      ((form statement).map Prod.fst = some value ↔ isStatement value statement))
    {text line : List Char} (member : line ∈ cut '\n' text) (value : List Char) :
    (form (trimLeft line)).map Prod.fst = some value ↔ Indented (isStatement value) line := by
  have oneLine : '\n' ∉ trimLeft line := fun inside =>
    not_mem_of_mem_cut member ((List.dropWhile_suffix _).subset inside)
  rw [read oneLine, indented_iff (start value)]

/-- Each package is the top level of a path, for both statements alike. -/
theorem packages_by_path (lists paths : List (List Char)) :
    lists.flatMap listed ++ paths.map topLevel =
      (((lists.flatMap fun list => cut ',' (upTo '#' list)).filterMap firstToken?) ++ paths).map
        topLevel := by
  have ofList : listed = fun list =>
      ((cut ',' (upTo '#' list)).filterMap firstToken?).map topLevel := by
    funext list
    rw [listed, List.map_filterMap]
  rw [ofList, List.map_append, List.filterMap_flatMap, List.map_flatMap]

/-- A source all of whose lines are complete is read line by line. -/
theorem extract_by_line {text : String}
    (complete : ∀ line ∈ cut '\n' text.toList, Complete line) :
    ReadByLine text (extract text) := by
  have lists : importLists text.toList = (cut '\n' text.toList).filterMap fun line =>
      (importList? (trimLeft line)).map Prod.fst :=
    occurrences_eq_filterMap_lines importList?_isStatement importList?_shortens
      fun line member rest => ((complete line member).within (not_mem_of_mem_cut member) rest).1
  have sources : sourcePaths text.toList = (cut '\n' text.toList).filterMap fun line =>
      (sourcePath? (trimLeft line)).map Prod.fst :=
    occurrences_eq_filterMap_lines sourcePath?_isStatement sourcePath?_shortens
      fun line member rest => ((complete line member).within (not_mem_of_mem_cut member) rest).2
  refine ⟨fun line => (importList? (trimLeft line)).map Prod.fst,
    fun line => (sourcePath? (trimLeft line)).map Prod.fst,
    fun line member => indented_iff_of_line (fun _ _ => Lists.stopsBefore)
      importList?_eq_some_iff_lists member,
    fun line member => indented_iff_of_line (fun _ _ => Names.stopsBefore)
      sourcePath?_eq_some_iff_names member, ?_⟩
  have kept : (packages text).identifiers = _ := Context.identifiers_unique _
  rw [packages_by_path, lists, sources] at kept
  exact congrArg (fun identifiers => Extraction.mk ⟨identifiers⟩ .python []) kept

/-- Lines that end with a bracket are complete, and so are empty ones. -/
theorem extract_by_line_with_comments :
    (∀ line ∈ cut '\n' "import os.path, sys as s  # (tools)\n\n\tfrom a.b import (c)".toList,
      Complete line) ∧
      ReadByLine "import os.path, sys as s  # (tools)\n\n\tfrom a.b import (c)"
        ⟨⟨["os", "sys", "a"]⟩, .python, []⟩ := by
  have complete : ∀ line ∈
      cut '\n' "import os.path, sys as s  # (tools)\n\n\tfrom a.b import (c)".toList,
      Complete line := fun line member => complete_of_getLast? (by revert line; decide +kernel)
  have value : extract "import os.path, sys as s  # (tools)\n\n\tfrom a.b import (c)" =
      ⟨⟨["os", "sys", "a"]⟩, .python, []⟩ := by
    decide +kernel
  exact ⟨complete, value ▸ extract_by_line complete⟩

end LibraryScout.Imports.Python
