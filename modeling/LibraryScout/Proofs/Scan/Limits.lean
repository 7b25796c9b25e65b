import LibraryScout.Proofs.Scan.Accounting
import LibraryScout.Proofs.Scan.Reached
import Mathlib.Data.List.Perm.Subperm

/-!
Contract: scans of one directory with different limits.

Owns:
- what a scan finds, in terms of the files that it may take;
- that more room for files, larger files, more levels and hidden entries each leave what was found
  as it was, and that a deeper scan adds nothing but files further down.

A scan that stops at its limit of files would find other files when it goes deeper, so the last two
are about scans that do not come to that limit.
-/

namespace LibraryScout.Scan

open LibraryScout.Files LibraryScout.Source

/-- There are no more files to take than the limit allows. -/
def Fits (top : Node) (root : List String) (registry : Registry) (limits : Limits) : Prop :=
  (eligible registry (walk limits.reach top root)).length ≤ limits.maxFiles

instance (top : Node) (root : List String) (registry : Registry) (limits : Limits) :
    Decidable (Fits top root registry limits) :=
  inferInstanceAs (Decidable (_ ≤ _))

namespace Limits

def withMaxFiles (limits : Limits) (maxFiles : Nat) : Limits :=
  { limits with maxFiles }

def withMaxFileSize (limits : Limits) (maxFileSize : Nat) : Limits :=
  { limits with maxFileSize }

def withMaxDepth (limits : Limits) (maxDepth : Nat) : Limits :=
  { limits with reach := { limits.reach with maxDepth } }

def withHidden (limits : Limits) (hidden : Bool) : Limits :=
  { limits with reach := { limits.reach with hidden } }

end Limits

/-- The number of names that a key is put together from. -/
def keyDepth (key : String) : Nat :=
  (Text.cut '/' key.toList).length

/-! ## Files that are not skipped -/

namespace Eligible

variable {root : List String} {small large : Nat} {file : Eligible}

/-- A file that is kept is kept when larger files are allowed. -/
theorem kept?_of_le (larger : small ≤ large) {entry : String × Extraction}
    (isKept : file.kept? root small = some entry) : file.kept? root large = some entry := by
  rw [kept?, Option.map_eq_some_iff] at isKept ⊢
  obtain ⟨text, isText, made⟩ := isKept
  obtain ⟨smallEnough, sameBytes⟩ := text?_eq_some_iff.1 isText
  exact ⟨text, text?_eq_some_iff.2 ⟨by omega, sameBytes⟩, made⟩

theorem IsSkipped.of_le (larger : small ≤ large) (isSkipped : file.IsSkipped large) :
    file.IsSkipped small :=
  isSkipped.imp_left fun tooLarge => Nat.lt_of_le_of_lt larger tooLarge

end Eligible

/-! ## What one scan finds -/

section

variable {top held : Node} {root : List String} {registry : Registry} {limits : Limits}
  {entry : String × Extraction}
  (wellFormed : top.WellFormed) (leads : top.at? root = some held)
  (isDirectory : held.isDirectory = true)

include wellFormed leads isDirectory

theorem filesScanned_scanAt :
    (scanAt top root registry limits).1.filesScanned =
      ((eligible registry (walk limits.reach top root)).take limits.maxFiles).length := by
  obtain ⟨last, tallied, run⟩ := exists_tallied_scanAt wellFormed leads isDirectory registry limits
  rw [run, ← filesOf_within_noted]
  exact tallied.scanned

theorem skipped_scanAt :
    (scanAt top root registry limits).1.skipped =
      ((eligible registry (walk limits.reach top root)).take limits.maxFiles).countP
        fun file => file.IsSkipped limits.maxFileSize := by
  obtain ⟨last, tallied, run⟩ := exists_tallied_scanAt wellFormed leads isDirectory registry limits
  rw [run, ← filesOf_within_noted]
  exact tallied.skipped

theorem mem_files_scanAt_iff :
    entry ∈ (scanAt top root registry limits).1.files ↔
      ∃ file ∈ (eligible registry (walk limits.reach top root)).take limits.maxFiles,
        file.kept? root limits.maxFileSize = some entry := by
  obtain ⟨last, tallied, run⟩ := exists_tallied_scanAt wellFormed leads isDirectory registry limits
  rw [run, tallied.files.mem_iff, filesOf_within_noted, List.mem_filterMap]

/-- A scan that took fewer files than it may has not come to its limit. -/
theorem fits_of_filesScanned_lt
    (room : (scanAt top root registry limits).1.filesScanned < limits.maxFiles) :
    Fits top root registry limits := by
  rw [filesScanned_scanAt wellFormed leads isDirectory, List.length_take] at room
  rw [Fits]
  omega

/-- A scan that does not come to its limit takes all files. -/
theorem mem_files_of_fits (fits : Fits top root registry limits) :
    entry ∈ (scanAt top root registry limits).1.files ↔
      ∃ file ∈ eligible registry (walk limits.reach top root),
        file.kept? root limits.maxFileSize = some entry := by
  rw [mem_files_scanAt_iff wellFormed leads isDirectory, List.take_of_length_le fits]

/-- A file that a scan may take has a key of as many names as lead down to it. -/
theorem exists_names_of_mem_eligible {reach : Reach} {file : Eligible}
    (member : file ∈ eligible registry (walk reach top root)) :
    ∃ names, file.path = root ++ names ∧ keyDepth (file.key root) = names.length := by
  obtain ⟨names, someNames, place, plain, _⟩ :=
    below_of_mem_eligible wellFormed leads isDirectory member
  refine ⟨names, place, ?_⟩
  have slash : "/" = String.singleton '/' := rfl
  rw [keyDepth, Eligible.key, keyBelow, place, List.drop_left, slash,
    Text.cut_joined someNames plain, List.length_map]

end

/-! ## Two scans -/

section

variable {top held : Node} {root : List String} {registry : Registry}
  (wellFormed : top.WellFormed) (leads : top.at? root = some held)
  (isDirectory : held.isDirectory = true)

include wellFormed leads isDirectory

theorem nodup_eligible (reach : Reach) :
    (eligible registry (walk reach top root)).Nodup :=
  (nodup_keys wellFormed leads isDirectory reach registry).of_map _

theorem Fits.of_subset {fewer more : Limits}
    (sameRoom : fewer.maxFiles = more.maxFiles)
    (subset : eligible registry (walk fewer.reach top root) ⊆
      eligible registry (walk more.reach top root))
    (fits : Fits top root registry more) : Fits top root registry fewer := by
  have fewerFiles := (List.subperm_of_subset
    (nodup_eligible wellFormed leads isDirectory fewer.reach) subset).length_le
  exact fewerFiles.trans (fits.trans_eq sameRoom.symm)

/-- Where a scan may take fewer files, it finds fewer entries, if the other one does not come to its
limit. -/
theorem files_subset_of_eligible_subset {fewer more : Limits}
    (sameSize : fewer.maxFileSize = more.maxFileSize)
    (subset : eligible registry (walk fewer.reach top root) ⊆
      eligible registry (walk more.reach top root))
    (fits : Fits top root registry more) :
    (scanAt top root registry fewer).1.files ⊆ (scanAt top root registry more).1.files := by
  intro entry found
  obtain ⟨file, taken, isKept⟩ := (mem_files_scanAt_iff wellFormed leads isDirectory).1 found
  exact (mem_files_of_fits wellFormed leads isDirectory fits).2
    ⟨file, subset (List.mem_of_mem_take taken), sameSize ▸ isKept⟩

theorem files_withMaxFiles {limits : Limits} {more : Nat}
    (larger : limits.maxFiles ≤ more) :
    (scanAt top root registry limits).1.files ⊆
      (scanAt top root registry (limits.withMaxFiles more)).1.files := by
  intro entry found
  obtain ⟨file, taken, isKept⟩ := (mem_files_scanAt_iff wellFormed leads isDirectory).1 found
  exact (mem_files_scanAt_iff wellFormed leads isDirectory).2
    ⟨file, (List.take_prefix_take_left larger).subset taken, isKept⟩

theorem files_withMaxFileSize {limits : Limits} {more : Nat}
    (larger : limits.maxFileSize ≤ more) :
    (scanAt top root registry limits).1.files ⊆
      (scanAt top root registry (limits.withMaxFileSize more)).1.files := by
  intro entry found
  obtain ⟨file, taken, isKept⟩ := (mem_files_scanAt_iff wellFormed leads isDirectory).1 found
  exact (mem_files_scanAt_iff wellFormed leads isDirectory).2
    ⟨file, taken, Eligible.kept?_of_le larger isKept⟩

theorem skipped_withMaxFileSize {limits : Limits} {more : Nat}
    (larger : limits.maxFileSize ≤ more) :
    (scanAt top root registry (limits.withMaxFileSize more)).1.skipped ≤
      (scanAt top root registry limits).1.skipped := by
  rw [skipped_scanAt wellFormed leads isDirectory, skipped_scanAt wellFormed leads isDirectory]
  refine List.countP_mono_left fun file _ isSkipped => ?_
  rw [decide_eq_true_eq] at isSkipped ⊢
  exact isSkipped.of_le larger

/-- The depth of a walk decides about the number of names that lead down, and about nothing else. -/
theorem mem_eligible_withMaxDepth {limits : Limits} {deeper : Nat}
    (larger : limits.reach.maxDepth ≤ deeper) {file : Eligible} :
    file ∈ eligible registry (walk limits.reach top root) ↔
      file ∈ eligible registry (walk (limits.withMaxDepth deeper).reach top root) ∧
        keyDepth (file.key root) ≤ limits.reach.maxDepth := by
  constructor
  · intro member
    obtain ⟨stands, registered, names, place, short, isOpen⟩ :=
      (mem_eligible_iff wellFormed leads).1 member
    refine ⟨(mem_eligible_iff wellFormed leads).2 ⟨stands, registered, names, place,
      short.trans larger, isOpen.of_hidden id⟩, ?_⟩
    obtain ⟨_, samePlace, depth⟩ := exists_names_of_mem_eligible wellFormed leads isDirectory member
    rwa [depth, ← List.append_cancel_left (place.symm.trans samePlace)]
  · rintro ⟨member, shallow⟩
    obtain ⟨stands, registered, names, place, -, isOpen⟩ :=
      (mem_eligible_iff wellFormed leads).1 member
    obtain ⟨_, samePlace, depth⟩ := exists_names_of_mem_eligible wellFormed leads isDirectory member
    rw [depth, ← List.append_cancel_left (place.symm.trans samePlace)] at shallow
    exact (mem_eligible_iff wellFormed leads).2
      ⟨stands, registered, names, place, shallow, isOpen.of_hidden id⟩

/-- A deeper scan that does not come to its limit finds the same entries, and others further down
only. -/
theorem mem_files_withMaxDepth {limits : Limits} {deeper : Nat}
    (larger : limits.reach.maxDepth ≤ deeper)
    (fits : Fits top root registry (limits.withMaxDepth deeper)) {entry : String × Extraction} :
    entry ∈ (scanAt top root registry limits).1.files ↔
      entry ∈ (scanAt top root registry (limits.withMaxDepth deeper)).1.files ∧
        keyDepth entry.1 ≤ limits.reach.maxDepth := by
  have shallow_iff {file : Eligible} : file ∈ eligible registry (walk limits.reach top root) ↔ _ :=
    mem_eligible_withMaxDepth wellFormed leads isDirectory larger
  have subset : eligible registry (walk limits.reach top root) ⊆
      eligible registry (walk (limits.withMaxDepth deeper).reach top root) :=
    fun file member => (shallow_iff.1 member).1
  have sameRoom : limits.maxFiles = (limits.withMaxDepth deeper).maxFiles := rfl
  have fitsToo : Fits top root registry limits :=
    fits.of_subset wellFormed leads isDirectory sameRoom subset
  rw [mem_files_of_fits wellFormed leads isDirectory fits,
    mem_files_of_fits wellFormed leads isDirectory fitsToo]
  constructor
  · rintro ⟨file, member, isKept⟩
    obtain ⟨deepMember, shallow⟩ := shallow_iff.1 member
    exact ⟨⟨file, deepMember, isKept⟩, (Eligible.key_of_kept? isKept).1 ▸ shallow⟩
  · rintro ⟨⟨file, deepMember, isKept⟩, shallow⟩
    rw [(Eligible.key_of_kept? isKept).1] at shallow
    exact ⟨file, shallow_iff.2 ⟨deepMember, shallow⟩, isKept⟩

omit isDirectory in
/-- Files that are met without hidden entries are met with them. -/
theorem eligible_withHidden (limits : Limits) :
    eligible registry (walk (limits.withHidden false).reach top root) ⊆
      eligible registry (walk (limits.withHidden true).reach top root) := by
  intro file member
  obtain ⟨stands, registered, names, place, short, isOpen⟩ :=
    (mem_eligible_iff wellFormed leads).1 member
  exact (mem_eligible_iff wellFormed leads).2
    ⟨stands, registered, names, place, short, isOpen.of_hidden nofun⟩

end

/-- The limits of a scan only cut. Of one directory, whatever its ignore files say, a scan that may
take more files keeps every entry; so does one that takes larger files, and it takes as many files
and skips no more of them. Where there are no more files than a scan may take, as is so when it took
fewer, going deeper adds nothing but files whose keys have more names, and taking hidden entries
along loses nothing. -/
theorem limits_only_cut {store : Store} {path : String} {root : List String} {held : Node}
    (wellFormed : store.root.WellFormed) (finds : store.find path = .ok (root, held))
    (isDirectory : held.isDirectory = true) (registry : Registry) :
    ∃ found : Limits → Result,
      (∀ limits, ∃ events, scan store registry limits path = (.ok (found limits), events)) ∧
      (∀ limits more, limits.maxFiles ≤ more →
        (found limits).files ⊆ (found (limits.withMaxFiles more)).files) ∧
      (∀ limits more, limits.maxFileSize ≤ more →
        let larger := found (limits.withMaxFileSize more)
        (found limits).files ⊆ larger.files ∧
          larger.filesScanned = (found limits).filesScanned ∧
          larger.skipped ≤ (found limits).skipped) ∧
      (∀ limits, (found limits).filesScanned < limits.maxFiles →
        Fits store.root root registry limits) ∧
      (∀ limits deeper, limits.reach.maxDepth ≤ deeper →
        Fits store.root root registry (limits.withMaxDepth deeper) →
        ∀ entry, entry ∈ (found limits).files ↔
          entry ∈ (found (limits.withMaxDepth deeper)).files ∧
            keyDepth entry.1 ≤ limits.reach.maxDepth) ∧
      ∀ limits : Limits, Fits store.root root registry (limits.withHidden true) →
        (found (limits.withHidden false)).files ⊆ (found (limits.withHidden true)).files := by
  have leads := Store.at?_of_find finds
  refine ⟨fun limits => (scanAt store.root root registry limits).1, ?_, ?_, ?_, ?_, ?_, ?_⟩
  · exact fun limits => ⟨_, scan_eq finds isDirectory registry limits⟩
  · exact fun limits more larger => files_withMaxFiles wellFormed leads isDirectory larger
  · intro limits more larger
    refine ⟨files_withMaxFileSize wellFormed leads isDirectory larger, ?_,
      skipped_withMaxFileSize wellFormed leads isDirectory larger⟩
    rw [filesScanned_scanAt wellFormed leads isDirectory,
      filesScanned_scanAt wellFormed leads isDirectory]
    rfl
  · exact fun limits room => fits_of_filesScanned_lt wellFormed leads isDirectory room
  · exact fun limits deeper larger fits entry =>
      mem_files_withMaxDepth wellFormed leads isDirectory larger fits
  · exact fun limits fits => files_subset_of_eligible_subset wellFormed leads isDirectory rfl
      (eligible_withHidden wellFormed leads limits) fits

/-- Scans of a directory with a hidden file, a file of nine bytes and a longer one further down. -/
theorem limits_only_cut_of_three_files :
    let first := Node.emptyDirectory.put ["work", ".h.py"] (.file "import re".toUTF8)
    let second := first.put ["work", "a.py"] (.file "import os".toUTF8)
    let store : Store := ⟨second.put ["work", "d", "b.py"] (.file "import json".toUTF8), []⟩
    let limits : Limits := ⟨⟨1, false⟩, 1, 9⟩
    let all : Limits := ⟨⟨2, true⟩, 3, 20⟩
    Fits store.root ["work"] .defaults all ∧
      ∃ found : Limits → Result,
        (∀ limits, ∃ events, scan store .defaults limits "/work" = (.ok (found limits), events)) ∧
        (found limits).files ⊆ (found (limits.withMaxFiles 2)).files ∧
        (found limits).filesScanned = (found (limits.withMaxFileSize 20)).filesScanned ∧
        (∀ entry, entry ∈ (found (all.withMaxDepth 1)).files ↔
          entry ∈ (found all).files ∧ keyDepth entry.1 ≤ 1) ∧
        (found (all.withHidden false)).files ⊆ (found all).files := by
  intro first second store limits all
  have firstWellFormed : first.WellFormed :=
    Node.wellFormed_emptyDirectory.put (by decide +kernel) (.file _)
  have secondWellFormed : second.WellFormed := firstWellFormed.put (by decide +kernel) (.file _)
  have finds : store.find "/work" = .ok (["work"], .directory [(".h.py", .file "import re".toUTF8),
      ("a.py", .file "import os".toUTF8),
      ("d", .directory [("b.py", .file "import json".toUTF8)])]) :=
    Store.find_of_follow (by decide) (by decide) (by decide) rfl rfl
  have fits : Fits store.root ["work"] .defaults all := by decide +kernel
  obtain ⟨found, scans, moreFiles, largerFiles, -, deeper, hidden⟩ := limits_only_cut
    (secondWellFormed.put (by decide +kernel) (.file _)) finds rfl .defaults
  exact ⟨fits, found, scans, moreFiles limits 2 (by decide),
    (largerFiles limits 20 (by decide)).2.1.symm, deeper (all.withMaxDepth 1) 2 (by decide) fits,
    hidden all fits⟩

end LibraryScout.Scan
