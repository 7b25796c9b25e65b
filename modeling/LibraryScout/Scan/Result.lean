import LibraryScout.Assembly.Outcome

/-!
Contract: what a scan of a directory tree found.

Extractions are kept by the path of their file below the root, in the order of the paths'
characters; no path occurs twice.
-/

namespace LibraryScout.Scan

open LibraryScout.Source

/-- Extractions by path, in the order of the paths. -/
abbrev Files :=
  List (String × Extraction)

/-- Gives a path an extraction, in its place in the order. -/
def Files.insert (files : Files) (path : String) (extraction : Extraction) : Files :=
  match files with
  | [] => [(path, extraction)]
  | (present, held) :: others =>
      if path = present then (path, extraction) :: others
      else if path < present then (path, extraction) :: (present, held) :: others
      else (present, held) :: insert others path extraction

/-- A path that has no extraction yet gets one beside those that are there. -/
theorem Files.insert_perm {files : Files} {path : String} (absent : path ∉ files.map Prod.fst)
    (extraction : Extraction) :
    (files.insert path extraction).Perm ((path, extraction) :: files) := by
  induction files with
  | nil => exact List.Perm.refl _
  | cons head others inductionHypothesis =>
      obtain ⟨present, held⟩ := head
      have different : path ≠ present := fun same => absent (by simp [same])
      have absentLater : path ∉ List.map Prod.fst others :=
        fun member => absent (List.mem_cons_of_mem present member)
      rw [insert, if_neg different]
      split
      · exact List.Perm.refl _
      · have later := (inductionHypothesis absentLater).cons (present, held)
        exact later.trans (List.Perm.swap (path, extraction) (present, held) others)

/-- The findings below one root. -/
structure Result where
  root : String
  files : Files
  filesScanned : Nat
  skipped : Nat
deriving DecidableEq, Repr

namespace Result

/-- How many files have dependencies. -/
def withDependencies (result : Result) : Nat :=
  result.files.countP fun (_, extraction) => !extraction.context.isEmpty

def toJson (result : Result) : Json :=
  .object [("root", .string result.root),
    ("files", .object (result.files.map fun (path, extraction) => (path, extraction.toJson))),
    ("files_scanned", Json.natural result.filesScanned),
    ("skipped", Json.natural result.skipped)]

end Result

end LibraryScout.Scan
