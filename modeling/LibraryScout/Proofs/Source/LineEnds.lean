import LibraryScout.Proofs.Imports.LineEnds
import LibraryScout.Proofs.Manifest.Requirements
import Mathlib.Data.List.Infix

/-!
Contract: extractions of texts with a carriage return before every line feed.

The extraction of a Java source and of a requirements listing is what it is without the carriage
returns. So is that of a Python source in which no statement hangs on the end of a line.
-/

namespace LibraryScout.Source

open LibraryScout.Imports LibraryScout.Manifest LibraryScout.Text

/-- A carriage return belongs to no name. -/
theorem leadingName?_append_return (line : List Char) :
    Requirements.leadingName? (line ++ ['\r']) = Requirements.leadingName? line := by
  have outside : isWord '\r' = false := by decide
  rw [Requirements.leadingName?, Requirements.leadingName?, takeWhile_append_stop outside]

theorem requirements_withReturns (text : String) :
    Requirements.extract (withReturns text) = Requirements.extract text := by
  have sameNames := filterMap_cut_returned leadingName?_append_return text.toList
  rw [Requirements.extract, Requirements.extract, toList_withReturns,
    Requirements.names_eq_filterMap_lines, Requirements.names_eq_filterMap_lines, sameNames]

theorem java_withReturns (text : String) :
    Java.extract (withReturns text) = Java.extract text := by
  have samePackages : Java.packages (withReturns text) = Java.packages text := by
    rw [Java.packages, Java.packages, toList_withReturns, Java.paths_returned]
  rw [Java.extract, Java.extract, samePackages]

theorem python_withReturns {text : String}
    (own : OnBlankLines (fun here => ¬ Python.HangsOnLineEnd here) true text.toList) :
    Python.extract (withReturns text) = Python.extract text := by
  have samePackages : Python.packages (withReturns text) = Python.packages text := by
    rw [Python.packages, Python.packages, toList_withReturns, Python.listed_importLists_returned,
      Python.sourcePaths_returned own]
  rw [Python.extract, Python.extract, samePackages]

/-- How lines end is of no matter to a Java source and to a requirements listing, nor to a Python
source none of whose imports of names hangs on the end of a line. Those that hang are the ones that
are read with carriage returns only, or without them only. -/
theorem extractions_withReturns (text : String) :
    Java.extract (withReturns text) = Java.extract text ∧
      Requirements.extract (withReturns text) = Requirements.extract text ∧
      (OnBlankLines (fun here => ¬ Python.HangsOnLineEnd here) true text.toList →
        Python.extract (withReturns text) = Python.extract text) ∧
      ∀ here, Python.HangsOnLineEnd here ↔
        (Python.sourcePath? (returned here)).isSome ≠ (Python.sourcePath? here).isSome :=
  ⟨java_withReturns text, requirements_withReturns text, python_withReturns,
    fun _ => Python.hangsOnLineEnd_iff⟩

/-- A source of three statements, the second of which is written over two lines. -/
theorem extractions_withReturns_of_three_imports :
    Python.extract (withReturns "import os\nfrom\n a.b import c\nimport re\n") =
      ⟨⟨["os", "re", "a"]⟩, .python, []⟩ := by
  let text := "import os\nfrom\n a.b import c\nimport re\n"
  obtain ⟨-, -, python, hangs⟩ := extractions_withReturns text
  have same : Python.extract (withReturns text) = Python.extract text := by
    refine python fun before here split _ => ?_
    have alike : ∀ tail ∈ text.toList.tails, (Python.sourcePath? (returned tail)).isSome =
        (Python.sourcePath? tail).isSome := by decide +kernel
    exact fun byLineEnd => (hangs here).1 byLineEnd
      (alike here ((List.mem_tails _ _).2 ⟨before, split.symm⟩))
  have extracted : Python.extract text = ⟨⟨["os", "re", "a"]⟩, .python, []⟩ := by decide +kernel
  exact same.trans extracted

/-- Where nothing but the end of the line follows the words, a carriage return counts as a name. -/
theorem carriage_return_counts_as_name :
    let text := "from x import \n"
    '\r' ∉ text.toList ∧ (Python.extract text).context.identifiers = [] ∧
      (Python.extract (withReturns text)).context.identifiers = ["x"] := by
  decide +kernel

end LibraryScout.Source
