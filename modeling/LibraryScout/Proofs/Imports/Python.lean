import LibraryScout.Proofs.Imports.Statements
import LibraryScout.Proofs.Text.Occurrences

/-!
Contract: the packages that the scans of a Python source find.

Owns: that a package is a part of the source and holds no white space, point, comma or hash. The
packages of a plain import are cut from its list, and those of a `from` import come from a path of
word characters and points.

Does not own: which statements are found.
-/

namespace LibraryScout.Imports.Python

open LibraryScout.Source LibraryScout.Text

/-- Characters that a package may hold. -/
def isPackageChar (character : Char) : Prop :=
  isBlank character = false ∧ character ∉ ['.', ',', '#']

/-! ## Statements -/

/-- A list and what is left behind its line end the text together. -/
theorem importList?_eq_some {text list after : List Char}
    (found : importList? text = some (list, after)) : list ++ after <:+ text := by
  obtain ⟨gap, start, rfl, -, -, -, parts⟩ := importList?_eq_some_iff.1 found
  rw [append_of_line parts]
  exact ⟨"import".toList ++ gap, by simp⟩

theorem importList?_suffix {text list after : List Char}
    (found : importList? text = some (list, after)) : after <:+ text :=
  (List.suffix_append list after).trans (importList?_eq_some found)

/-- The path of a `from` import is a run of path characters, and what is left comes behind it. -/
theorem sourcePath?_eq_some {text path after : List Char}
    (found : sourcePath? text = some (path, after)) :
    (∃ behind, path ++ behind <:+ text ∧ after <:+ behind) ∧
      ∀ character ∈ path, isPathChar character = true := by
  obtain ⟨gap, behind, rfl, -, -, inPath, named⟩ := sourcePath?_eq_some_iff.1 found
  exact ⟨⟨behind, ⟨"from".toList ++ gap, by simp⟩, names?_suffix named⟩, inPath⟩

theorem sourcePath?_suffix {text path after : List Char}
    (found : sourcePath? text = some (path, after)) : after <:+ text := by
  obtain ⟨⟨behind, whole, left⟩, -⟩ := sourcePath?_eq_some found
  exact (left.trans (List.suffix_append path behind)).trans whole

/-! ## Packages -/

theorem isPackageChar_of_isPathChar {character : Char} (inPath : isPathChar character = true)
    (notPoint : character ≠ '.') : isPackageChar character := by
  have word : isWord character = true := by
    simpa [isPathChar, notPoint] using inPath
  refine ⟨not_isBlank_of_isWord word, fun mark => ?_⟩
  rw [not_isWord_of_mark mark] at word
  cases word

/-- A package in the list of a plain import is a part of the list without any mark. -/
theorem form_of_mem_listed {list : List Char} {package : String} (member : package ∈ listed list) :
    package.toList <:+: list ∧ ∀ character ∈ package.toList, isPackageChar character := by
  obtain ⟨clause, clauseMember, made⟩ := List.mem_filterMap.1 member
  obtain ⟨token, first, rfl⟩ := Option.map_eq_some_iff.1 made
  have clauseInside : clause <:+: upTo '#' list := infix_of_mem_cut clauseMember
  have inToken : upTo '.' token <+: token := upTo_isPrefix '.' token
  have inClause : token <:+: clause := infix_of_firstToken? first
  rw [topLevel, String.toList_ofList]
  refine ⟨(inToken.isInfix.trans inClause).trans
    (clauseInside.trans (upTo_isPrefix '#' list).isInfix), ?_⟩
  intro character charMember
  have tokenMember := inToken.subset charMember
  have clauseCharMember := inClause.subset tokenMember
  refine ⟨not_isBlank_of_mem_firstToken? first character tokenMember, ?_⟩
  intro mark
  simp only [List.mem_cons, List.not_mem_nil, or_false] at mark
  rcases mark with rfl | rfl | rfl
  · exact not_mem_upTo '.' token charMember
  · exact not_mem_of_mem_cut clauseMember clauseCharMember
  · exact not_mem_upTo '#' list (clauseInside.subset clauseCharMember)

/-- The package of a `from` import is the start of its path. -/
theorem form_of_topLevel {path : List Char}
    (inPath : ∀ character ∈ path, isPathChar character = true) :
    (topLevel path).toList <+: path ∧
      ∀ character ∈ (topLevel path).toList, isPackageChar character := by
  rw [topLevel, String.toList_ofList]
  refine ⟨upTo_isPrefix '.' path, ?_⟩
  intro character member
  have notPoint : character ≠ '.' := fun same => not_mem_upTo '.' path (same ▸ member)
  exact isPackageChar_of_isPathChar (inPath _ ((upTo_isPrefix '.' path).subset member)) notPoint

/-! ## Sources -/

theorem infix_of_mem_importLists {text list : List Char} (member : list ∈ importLists text) :
    list <:+: text := by
  obtain ⟨here, after, inside, matched⟩ :=
    exists_form_of_mem_occurrences (Pattern.reads_lineForm importList?_suffix) member
  have inHere := (List.prefix_append list after).isInfix.trans (importList?_eq_some matched).isInfix
  exact inHere.trans inside.isInfix

theorem form_of_mem_sourcePaths {text path : List Char} (member : path ∈ sourcePaths text) :
    path <:+: text ∧ ∀ character ∈ path, isPathChar character = true := by
  obtain ⟨here, after, inside, matched⟩ :=
    exists_form_of_mem_occurrences (Pattern.reads_lineForm sourcePath?_suffix) member
  obtain ⟨⟨behind, whole, -⟩, pathChars⟩ := sourcePath?_eq_some matched
  have inHere := (List.prefix_append path behind).isInfix.trans whole.isInfix
  exact ⟨inHere.trans inside.isInfix, pathChars⟩

/-- Identifiers of a source are parts of it, without white space and without marks. -/
theorem form_of_mem_packages {text identifier : String}
    (member : identifier ∈ (packages text).identifiers) :
    identifier.toList <:+: text.toList ∧
      ∀ character ∈ identifier.toList, isPackageChar character := by
  rw [packages, Context.mem_unique] at member
  rcases List.mem_append.1 member.1 with plain | fromPath
  · obtain ⟨list, listMember, named⟩ := List.mem_flatMap.1 plain
    obtain ⟨inside, chars⟩ := form_of_mem_listed named
    exact ⟨inside.trans (infix_of_mem_importLists listMember), chars⟩
  · obtain ⟨path, pathMember, rfl⟩ := List.mem_map.1 fromPath
    obtain ⟨inside, pathChars⟩ := form_of_mem_sourcePaths pathMember
    obtain ⟨starts, chars⟩ := form_of_topLevel pathChars
    exact ⟨starts.isInfix.trans inside, chars⟩

end LibraryScout.Imports.Python
