import LibraryScout.Imports.Java
import LibraryScout.Proofs.Text.Occurrences
import LibraryScout.Proofs.Text.Pieces

/-!
Contract: the scan of a Java source finds its import statements, all of them and nothing else.

Owns:
- `StatementAt`, import statements by their places in a text, stated without the scan;
- the form of what `statement?` accepts;
- the exact packages of a source: one for each statement whose path has one, in the order of the
  text, each once.

Nothing is lost between two matches because a statement is a single line up to the end of its path,
and behind the path only white space and the semicolon belong to it: neither is a place at which
another statement could start.
-/

namespace LibraryScout.Imports.Java

open LibraryScout.Source LibraryScout.Text

/-! ## Import statements by their places -/

/-- An import statement with a path stands at a position of a text: on its line it follows white
space alone, and white space, over several lines perhaps, stands between its path and its semicolon.
The path cannot be made longer, for neither white space nor a semicolon belongs to it. -/
def StatementAt (text : List Char) (position : Nat) (path : List Char) : Prop :=
  ∃ above line blanks rest,
    text = above ++ line ++ ("import ".toList ++ path ++ blanks ++ ';' :: rest) ∧
      position = (above ++ line).length ∧ StartsLine above ∧
      (∀ character ∈ line, isBlank character = true ∧ character ≠ '\n') ∧
      path ≠ [] ∧ (∀ character ∈ path, isBlank character = false ∧ character ≠ ';') ∧
      ∀ character ∈ blanks, isBlank character = true

/-- A package is imported at a position: there is a statement, and the package is its path up to the
last point. -/
def PackageAt (text : List Char) (position : Nat) (package : List Char) : Prop :=
  ∃ name, StatementAt text position (package ++ '.' :: name) ∧ '.' ∉ name

/-! ## One statement -/

theorem isPathChar_iff (character : Char) :
    isPathChar character = true ↔ isBlank character = false ∧ character ≠ ';' := by
  simp [isPathChar, and_comm]

/-- A written statement is read with its path, and what follows its semicolon is left. -/
theorem statement?_written {path blanks : List Char} (nonempty : path ≠ [])
    (pathChars : ∀ character ∈ path, isPathChar character = true)
    (blank : ∀ character ∈ blanks, isBlank character = true) (rest : List Char) :
    statement? ("import ".toList ++ path ++ blanks ++ ';' :: rest) = some (path, rest) := by
  have word : after? "import ".toList ("import ".toList ++ path ++ blanks ++ ';' :: rest) =
      some (path ++ (blanks ++ ';' :: rest)) := by
    rw [List.append_assoc, List.append_assoc, after?_append]
  have pathStops : StopsBefore isPathChar (blanks ++ ';' :: rest) := by
    intro character first
    cases blanks with
    | nil =>
        obtain rfl : ';' = character := by simpa using first
        rfl
    | cons space others =>
        obtain rfl : space = character := by simpa using first
        simp [isPathChar, blank space (by simp)]
  have blankStops : StopsBefore isBlank (';' :: rest) := by
    intro character first
    obtain rfl : ';' = character := by simpa using first
    rfl
  cases path with
  | nil => exact absurd rfl nonempty
  | cons first others =>
      simp only [statement?, word, takeWhile_run pathChars pathStops,
        dropWhile_run pathChars pathStops, trimLeft, dropWhile_run blank blankStops]

/-- The statements that a text can start with. -/
theorem statement?_eq_some_iff {text path rest : List Char} :
    statement? text = some (path, rest) ↔
      ∃ blanks, text = "import ".toList ++ path ++ blanks ++ ';' :: rest ∧ path ≠ [] ∧
        (∀ character ∈ path, isPathChar character = true) ∧
        ∀ character ∈ blanks, isBlank character = true := by
  constructor
  · intro found
    cases word : after? "import ".toList text with
    | none =>
        simp only [statement?, word] at found
        cases found
    | some afterWord =>
        simp only [statement?, word] at found
        have pieces := List.takeWhile_append_dropWhile (p := isPathChar) (l := afterWord)
        have blankPieces := List.takeWhile_append_dropWhile (p := isBlank)
          (l := afterWord.dropWhile isPathChar)
        have pathChars : ∀ character ∈ afterWord.takeWhile isPathChar,
            isPathChar character = true := fun _ member => List.mem_takeWhile_imp member
        split at found
        next => cases found
        next nonempty =>
          split at found
          next rest' closed =>
            cases found
            rw [trimLeft] at closed
            rw [closed] at blankPieces
            refine ⟨(afterWord.dropWhile isPathChar).takeWhile isBlank, ?_, ?_, pathChars, ?_⟩
            · rw [eq_append_of_after? word, List.append_assoc, List.append_assoc, blankPieces,
                pieces]
            · exact nonempty
            · exact fun _ member => List.mem_takeWhile_imp member
          next => cases found
  · rintro ⟨blanks, rfl, nonempty, pathChars, blank⟩
    exact statement?_written nonempty pathChars blank rest

theorem head?_of_statement? {text : List Char} {found : List Char × List Char}
    (accepted : statement? text = some found) : text.head? = some 'i' := by
  obtain ⟨blanks, rfl, -⟩ := statement?_eq_some_iff.1 accepted
  rfl

/-! ## The scan -/

theorem pattern_eq_some_iff {lineBlank : Bool} {text : List Char}
    {found : List Char × List Char} :
    pattern lineBlank text = some found ↔ lineBlank = true ∧ statement? text = some found := by
  cases lineBlank <;> simp [pattern]

/-- The scan's matches are the import statements. -/
theorem matchAt_iff_statementAt {text path : List Char} {position : Nat} :
    MatchAt pattern true text position path ↔ StatementAt text position path := by
  constructor
  · rintro ⟨before, here, rest, rfl, rfl, -, matched⟩
    obtain ⟨lineBlank, accepted⟩ := pattern_eq_some_iff.1 matched
    obtain ⟨above, line, rfl, starts, blankLine⟩ := lineBlankThrough_eq_true_iff.1 lineBlank
    obtain ⟨blanks, rfl, nonempty, pathChars, blank⟩ := statement?_eq_some_iff.1 accepted
    exact ⟨above, line, blanks, rest, rfl, rfl, starts, blankLine, nonempty,
      fun character member => (isPathChar_iff character).1 (pathChars character member), blank⟩
  · rintro ⟨above, line, blanks, rest, rfl, rfl, starts, blankLine, nonempty, pathChars, blank⟩
    have lineBlank := lineBlankThrough_eq_true_iff.2 ⟨above, line, rfl, starts, blankLine⟩
    refine ⟨above ++ line, _, rest, rfl, rfl, by simp, pattern_eq_some_iff.2 ⟨lineBlank, ?_⟩⟩
    exact statement?_eq_some_iff.2 ⟨blanks, rfl, nonempty,
      fun character member => (isPathChar_iff character).2 (pathChars character member), blank⟩

/-- Between its first character and the end of its path a statement reaches no blank line. -/
theorem lineBlankThrough_word {front back path : List Char}
    (pathChars : ∀ character ∈ path, isPathChar character = true)
    (split : "import ".toList ++ path = front ++ back) (nonempty : front ≠ []) (lineBlank : Bool) :
    lineBlankThrough lineBlank front = false := by
  have inLine : '\n' ∉ front := by
    intro member
    have whole : '\n' ∈ "import ".toList ++ path := split ▸ List.mem_append_left back member
    rcases List.mem_append.1 whole with inWord | inPath
    · exact absurd inWord (by decide)
    · exact absurd (pathChars _ inPath) (by decide)
  have startsWithWord : 'i' ∈ front := by
    cases front with
    | nil => exact absurd rfl nonempty
    | cons character rest =>
        have first : 'i' = character := congrArg (fun text => text.headD ' ') split
        rw [first]
        exact List.mem_cons_self
  rw [lineBlankThrough_of_line inLine]
  have notBlank : front.all isBlank = false := by
    rw [List.all_eq_false]
    exact ⟨'i', startsWithWord, by decide⟩
  rw [notBlank, Bool.and_false]

/-- White space and the semicolon behind a path start no statement. -/
theorem statement?_closing {front back blanks rest : List Char}
    (blank : ∀ character ∈ blanks, isBlank character = true)
    (split : blanks ++ [';'] = front ++ back) (nonempty : back ≠ []) :
    statement? (back ++ rest) = none := by
  cases accepted : statement? (back ++ rest) with
  | none => rfl
  | some found =>
      have first := head?_of_statement? accepted
      cases back with
      | nil => exact absurd rfl nonempty
      | cons character others =>
          obtain rfl : character = 'i' := by simpa using first
          have member : 'i' ∈ blanks ++ [';'] := split ▸ (by simp)
          rcases List.mem_append.1 member with inBlanks | closing
          · exact absurd (blank _ inBlanks) (by decide)
          · exact absurd closing (by decide)

/-- A statement holds no other one, and its line is not blank behind it. -/
theorem pattern_solid : Pattern.Solid pattern := by
  intro lineBlank text path rest matched
  obtain ⟨-, accepted⟩ := pattern_eq_some_iff.1 matched
  obtain ⟨blanks, rfl, -, pathChars, blank⟩ := statement?_eq_some_iff.1 accepted
  refine ⟨"import ".toList ++ path ++ (blanks ++ [';']), by simp, by simp, ?_, ?_⟩
  · intro front back split frontNonempty backNonempty
    cases inside : pattern (lineBlankThrough lineBlank front) (back ++ rest) with
    | none => rfl
    | some found =>
        obtain ⟨blankThere, acceptedThere⟩ := pattern_eq_some_iff.1 inside
        rcases List.append_eq_append_iff.1 split with ⟨behind, rfl, closing⟩ | ⟨within, word, rfl⟩
        · rw [statement?_closing blank closing backNonempty] at acceptedThere
          cases acceptedThere
        · rw [lineBlankThrough_word pathChars word frontNonempty] at blankThere
          cases blankThere
  · have closed : lineBlankThrough lineBlank
        ("import ".toList ++ path ++ (blanks ++ [';'])) = false := by
      rw [← List.append_assoc, lineBlankThrough_append]
      simp [lineBlankThrough, lineBlankAfter, isBlank, inRanges, blankRanges]
    rw [closed]

/-- The paths that the scan finds are those of all statements, in the order of the text. -/
theorem exists_statements (text : List Char) :
    ∃ found : List (Nat × List Char),
      found.Pairwise (fun earlier later => earlier.1 < later.1) ∧
        (∀ position path, (position, path) ∈ found ↔ StatementAt text position path) ∧
        paths text = found.map Prod.snd := by
  obtain ⟨found, sorted, located, values⟩ := exists_positions_of_allMatches pattern true text
  refine ⟨found, sorted, ?_, ?_⟩
  · intro position path
    rw [located, matchAt_iff_statementAt]
  · rw [paths, occurrences_eq_allMatches pattern_solid, values]

/-! ## Packages -/

/-- The package of a path, for paths of more than one segment. -/
theorem packageOf_eq (path : List Char) :
    packageOf path = match beforeLast? '.' path with
      | some package => String.ofList package
      | none => "" := by
  unfold packageOf
  cases beforeLast? '.' path <;> rfl

/-- Paths without a package give an empty text, which no context admits. -/
theorem packages_of_paths (found : List (List Char)) :
    (found.map packageOf).filter (fun package => package ≠ "") =
      ((found.filterMap (beforeLast? '.')).map String.ofList).filter
        (fun package => package ≠ "") := by
  induction found with
  | nil => rfl
  | cons path others inductionHypothesis =>
      rw [List.map_cons, packageOf_eq]
      cases cutAt : beforeLast? '.' path with
      | none =>
          rw [List.filterMap_cons_none cutAt, ← inductionHypothesis]
          rfl
      | some package =>
          rw [List.filterMap_cons_some cutAt, List.map_cons, List.filter_cons, List.filter_cons,
            inductionHypothesis]

/-- A statement's package with the statement's position. -/
def located? (statement : Nat × List Char) : Option (Nat × List Char) :=
  (beforeLast? '.' statement.2).map fun package => (statement.1, package)

theorem located?_eq_some_iff {statement : Nat × List Char} {position : Nat}
    {package : List Char} :
    located? statement = some (position, package) ↔
      ∃ name, statement = (position, package ++ '.' :: name) ∧ '.' ∉ name := by
  obtain ⟨place, path⟩ := statement
  simp only [located?, Option.map_eq_some_iff, Prod.mk.injEq]
  constructor
  · rintro ⟨_, cut, rfl, rfl⟩
    obtain ⟨name, rfl, single⟩ := beforeLast?_eq_some_iff.1 cut
    exact ⟨name, ⟨rfl, rfl⟩, single⟩
  · rintro ⟨name, ⟨rfl, rfl⟩, single⟩
    exact ⟨package, beforeLast?_eq_some_iff.2 ⟨name, rfl, single⟩, rfl, rfl⟩

/-- The packages of the statements of a text, in its order. -/
theorem exists_packages (text : List Char) :
    ∃ found : List (Nat × List Char),
      found.Pairwise (fun earlier later => earlier.1 < later.1) ∧
        (∀ position package, (position, package) ∈ found ↔ PackageAt text position package) ∧
        (paths text).filterMap (beforeLast? '.') = found.map Prod.snd := by
  obtain ⟨statements, sorted, placed, values⟩ := exists_statements text
  refine ⟨statements.filterMap located?, ?_, ?_, ?_⟩
  · refine List.pairwise_filterMap.2 (sorted.imp ?_)
    rintro earlier later before ⟨_, first⟩ madeFirst ⟨_, second⟩ madeSecond
    obtain ⟨_, rfl, -⟩ := located?_eq_some_iff.1 madeFirst
    obtain ⟨_, rfl, -⟩ := located?_eq_some_iff.1 madeSecond
    exact before
  · intro position package
    rw [List.mem_filterMap]
    constructor
    · rintro ⟨statement, member, made⟩
      obtain ⟨name, rfl, single⟩ := located?_eq_some_iff.1 made
      exact ⟨name, (placed _ _).1 member, single⟩
    · rintro ⟨name, statement, single⟩
      exact ⟨_, (placed _ _).2 statement, located?_eq_some_iff.2 ⟨name, rfl, single⟩⟩
  · have sameCut : beforeLast? '.' ∘ Prod.snd = fun statement : Nat × List Char =>
        (located? statement).map Prod.snd := by
      funext statement
      simp [located?, Function.comp_def]
    rw [values, List.map_filterMap, List.filterMap_map, sameCut]

/-- Identifiers of a source are parts of it, without white space and without semicolons. -/
theorem form_of_mem_packages {text identifier : String}
    (member : identifier ∈ (packages text).identifiers) :
    identifier.toList <:+: text.toList ∧
      ∀ character ∈ identifier.toList, isBlank character = false ∧ character ≠ ';' := by
  rw [packages, Context.mem_unique] at member
  obtain ⟨pathMember, nonempty⟩ := member
  obtain ⟨path, pathFound, rfl⟩ := List.mem_map.1 pathMember
  obtain ⟨statements, -, placed, values⟩ := exists_statements text.toList
  rw [values] at pathFound
  obtain ⟨⟨position, found⟩, standing, same⟩ := List.mem_map.1 pathFound
  obtain rfl : found = path := same
  obtain ⟨above, line, blanks, rest, whole, -, -, -, -, pathChars, -⟩ := (placed _ _).1 standing
  rw [packageOf_eq] at nonempty ⊢
  cases cut : beforeLast? '.' found with
  | none => simp [cut] at nonempty
  | some package =>
      obtain ⟨name, rfl, -⟩ := beforeLast?_eq_some_iff.1 cut
      simp only [String.toList_ofList]
      refine ⟨⟨above ++ line ++ "import ".toList, '.' :: name ++ blanks ++ ';' :: rest, ?_⟩, ?_⟩
      · rw [whole]
        simp
      · exact fun character inPackage => pathChars character (List.mem_append_left _ inPackage)

/-- The extraction of a Java source is exact: its packages are those of all import statements, in
the order of the text, each where it stands first; without any, one warning is given and one
event raised. -/
theorem extract_exact (text : String) :
    ∃ found : List (Nat × List Char),
      found.Pairwise (fun earlier later => earlier.1 < later.1) ∧
        (∀ position package, (position, package) ∈ found ↔
          PackageAt text.toList position package) ∧
        let kept := ((found.map fun one => String.ofList one.2).filter
          fun package => package ≠ "").eraseDups
        extract text =
          (⟨⟨kept⟩, .java, if kept = [] then [.noImportStatements] else []⟩,
            if kept = [] then [noImports] else []) := by
  obtain ⟨found, sorted, located, values⟩ := exists_packages text.toList
  refine ⟨found, sorted, located, ?_⟩
  have kept : (packages text).identifiers = ((found.map fun one => String.ofList one.2).filter
      fun package => package ≠ "").eraseDups := by
    rw [packages, Context.identifiers_unique, packages_of_paths, values, List.map_map]
    rfl
  unfold extract
  rw [← kept]
  by_cases none : (packages text).identifiers = []
  · simp [Context.isEmpty, none, Context.empty]
  · simp [Context.isEmpty, none, Extraction.ofContext]

/-- Statements may share a line only behind a line feed, and may be broken behind their path. -/
example : (extract "import a.b.C; import d.E;\r\n \n\timport f.g.*\n ;import h.I;\nimport J;").1 =
    ⟨⟨["a.b", "f.g"]⟩, .java, []⟩ := by
  decide +kernel

end LibraryScout.Imports.Java
