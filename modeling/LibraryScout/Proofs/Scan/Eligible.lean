import LibraryScout.Proofs.Files.Store
import LibraryScout.Proofs.Scan.Walk
import Mathlib.Data.List.Nodup

/-!
Contract: the files that a scan may take, and what each of them comes to.

Owns:
- `eligible`, the files with an extractor that a walk meets;
- that a file is either skipped or has an entry under its key, and which text the entry is about.

Does not own: where the files stand, and how many of them a scan takes.
-/

namespace LibraryScout.Scan

open LibraryScout.Source

/-! ## Files that a scan may take -/

/-- A file of a kind that has an extractor. -/
structure Eligible where
  path : List String
  contents : Files.Contents
  extractor : Extractor

namespace Eligible

/-- The file that a walk meets, if it is a file and its kind has an extractor. -/
def of? (registry : Registry) : Item → Option Eligible
  | .error _ => none
  | .ok found =>
      match found.node with
      | .file contents =>
          (registry.forFile? found.name).map fun extractor => ⟨found.path, contents, extractor⟩
      | _ => none

/-- The path of a file below the scanned directory, as one text. -/
def key (root : List String) (file : Eligible) : String :=
  keyBelow root file.path

/-- A file that is too large, or cannot be read as a text: the system refuses to open it, or its
bytes are not UTF-8. -/
def IsSkipped (maxFileSize : Nat) (file : Eligible) : Prop :=
  maxFileSize < file.contents.size ∨ ¬ file.contents.IsReadable

instance (maxFileSize : Nat) (file : Eligible) : Decidable (file.IsSkipped maxFileSize) :=
  inferInstanceAs (Decidable (_ ∨ _))

/-- The text of a file that is not skipped. -/
def text? (maxFileSize : Nat) (file : Eligible) : Option String :=
  if maxFileSize < file.contents.size then none else file.contents.text.toOption

/-- The key and the extraction of a file that is not skipped. -/
def kept? (root : List String) (maxFileSize : Nat) (file : Eligible) :
    Option (String × Extraction) :=
  (file.text? maxFileSize).map fun text => (file.key root, (file.extractor.extract text).1)

/-- What is reported while a file is read. -/
def reports (maxFileSize : Nat) (file : Eligible) : List Log.Event :=
  if maxFileSize < file.contents.size then
    []
  else
    match file.contents.text with
    | .ok text => (file.extractor.extract text).2
    | .error fault => [unreadable file.path fault]

theorem of?_eq_some_iff {registry : Registry} {item : Item} {file : Eligible} :
    of? registry item = some file ↔ item = .ok ⟨file.path, .file file.contents⟩ ∧
      registry.forFile? (file.path.getLast?.getD "") = some file.extractor := by
  obtain ⟨path, contents, extractor⟩ := file
  cases item with
  | error hindrance => simp [of?]
  | ok found =>
      obtain ⟨place, node⟩ := found
      cases node with
      | file held =>
          simp only [of?, Found.name, Option.map_eq_some_iff, mk.injEq, Except.ok.injEq,
            Found.mk.injEq, Files.Node.file.injEq]
          constructor
          · rintro ⟨_, registered, rfl, rfl, rfl⟩
            exact ⟨⟨rfl, rfl⟩, registered⟩
          · rintro ⟨⟨rfl, rfl⟩, registered⟩
            exact ⟨extractor, registered, rfl, rfl, rfl⟩
      | directory | closedDirectory => simp [of?]

/-- A text is the text of a file exactly when its bytes are the file's, which can be opened and is
small enough. -/
theorem text?_eq_some_iff {maxFileSize : Nat} {file : Eligible} {text : String} :
    file.text? maxFileSize = some text ↔
      ¬ maxFileSize < file.contents.size ∧ file.contents = text.toUTF8 := by
  rw [text?]
  split
  next large => simp [large]
  next small =>
    rw [← Files.Contents.text_eq_ok_iff, and_iff_right small]
    cases file.contents.text <;> simp [Except.toOption]

theorem text?_eq_none_iff {maxFileSize : Nat} {file : Eligible} :
    file.text? maxFileSize = none ↔ file.IsSkipped maxFileSize := by
  rw [text?, IsSkipped]
  split
  next large => simp [large]
  next small =>
    rw [or_iff_right small, Files.Contents.isReadable_iff]
    cases file.contents.text <;> simp [Except.toOption]

/-- A file is skipped, or it has an entry with the extraction of its text. -/
theorem kept?_cases (root : List String) (maxFileSize : Nat) (file : Eligible) :
    (file.IsSkipped maxFileSize ∧ file.kept? root maxFileSize = none) ∨
      (¬ file.IsSkipped maxFileSize ∧ ∃ text : String, file.contents = text.toUTF8 ∧
        file.kept? root maxFileSize =
          some (file.key root, (file.extractor.extract text).1)) := by
  rw [kept?, ← text?_eq_none_iff]
  cases isText : file.text? maxFileSize with
  | none => exact Or.inl ⟨rfl, rfl⟩
  | some text =>
      exact Or.inr ⟨Option.some_ne_none text, text, (text?_eq_some_iff.1 isText).2, rfl⟩

theorem key_of_kept? {root : List String} {maxFileSize : Nat} {file : Eligible}
    {entry : String × Extraction} (isKept : file.kept? root maxFileSize = some entry) :
    entry.1 = file.key root ∧ ¬ file.IsSkipped maxFileSize := by
  rcases kept?_cases root maxFileSize file with ⟨_, notKept⟩ | ⟨notSkipped, text, _, hasKept⟩
  · exact absurd (isKept.symm.trans notKept) (by simp)
  · rw [Option.some.inj (isKept.symm.trans hasKept)]
    exact ⟨rfl, notSkipped⟩

end Eligible

/-- The files that a scan may take, in the order in which the walk meets them. -/
def eligible (registry : Registry) (walked : List Item) : List Eligible :=
  walked.filterMap (Eligible.of? registry)

/-! ## Entries and skipped files -/

section

variable (root : List String) (maxFileSize : Nat) (taken : List Eligible)

/-- The keys of the entries of files are keys of the files, in the same order. -/
theorem keys_entries_sublist :
    ((taken.filterMap (Eligible.kept? root maxFileSize)).map Prod.fst).Sublist
      (taken.map (Eligible.key root)) := by
  induction taken with
  | nil => exact List.Sublist.slnil
  | cons file later inductionHypothesis =>
      cases isKept : file.kept? root maxFileSize with
      | none =>
          rw [List.filterMap_cons_none isKept]
          exact inductionHypothesis.cons _
      | some entry =>
          rw [List.filterMap_cons_some isKept, List.map_cons, List.map_cons,
            (Eligible.key_of_kept? isKept).1]
          exact inductionHypothesis.cons_cons _

variable {root maxFileSize taken} in
theorem exists_file_of_mem_keys {key : String}
    (member : key ∈ (taken.filterMap (Eligible.kept? root maxFileSize)).map Prod.fst) :
    ∃ file ∈ taken, ¬ file.IsSkipped maxFileSize ∧ file.key root = key := by
  obtain ⟨entry, entryMember, rfl⟩ := List.mem_map.1 member
  obtain ⟨file, fileMember, isKept⟩ := List.mem_filterMap.1 entryMember
  obtain ⟨sameKey, notSkipped⟩ := Eligible.key_of_kept? isKept
  exact ⟨file, fileMember, notSkipped, sameKey.symm⟩

/-- Each file has an entry or is skipped. -/
theorem length_entries_add_countP :
    (taken.filterMap (Eligible.kept? root maxFileSize)).length +
      taken.countP (fun file => file.IsSkipped maxFileSize) = taken.length := by
  induction taken with
  | nil => rfl
  | cons file later inductionHypothesis =>
      rcases file.kept?_cases root maxFileSize with
        ⟨isSkipped, notKept⟩ | ⟨notSkipped, text, _, isKept⟩
      · rw [List.filterMap_cons_none notKept, List.countP_cons_of_pos (by simpa using isSkipped),
          List.length_cons]
        omega
      · rw [List.filterMap_cons_some isKept,
          List.countP_cons_of_neg (by simpa using notSkipped), List.length_cons,
          List.length_cons]
        omega

end

end LibraryScout.Scan
