import LibraryScout.Proofs.Scan.Accounting
import LibraryScout.Proofs.Scan.Versions

/-!
Contract: what one file of a tree has to do with a scan.

Owns:
- `Disregarded`, the reasons for which a scan does not take a file, and that there are no others;
- that the scans of two versions of a tree are the same in all they find and report when they
  disregard the file in which the versions differ;
- `OnlyItsOwn`, how the two scans may differ otherwise: in the entry of the file itself, in whether
  it is skipped, and in what is reported while it is read.

Does not own: which files of two versions a scan may take, and what extractors make of a text.
-/

namespace LibraryScout.Scan

open LibraryScout.Files LibraryScout.Source

/-! ## Files that a scan takes -/

/-- The files that a scan takes, the first of those that it may take. -/
def taken (top : Node) (root : List String) (registry : Registry) (limits : Limits) :
    List Eligible :=
  (eligible registry (walk limits.reach top root)).take limits.maxFiles

/-- The reasons for which a scan does not take the file at a place. -/
inductive Disregarded (registry : Registry) (limits : Limits) (top : Node)
    (root place : List String) : Prop where
  /-- The file is not below the scanned directory. -/
  | outside (apart : ¬ root <+: place)
  | noExtractor (unsupported : registry.forFile? (place.getLast?.getD "") = none)
  /-- The file or a directory on the way to it is ignored. -/
  | ignored {before after : List String} {name : String}
      (way : place = root ++ (before ++ name :: after))
      (verdict : verdictAt? top (root ++ before) name = some .ignored)
  /-- The file or a directory on the way to it is hidden, and no rule keeps it. -/
  | hidden {before after : List String} {name : String}
      (way : place = root ++ (before ++ name :: after))
      (silent : verdictAt? top (root ++ before) name = none)
      (hides : limits.reach.hidden = false) (dotted : isHidden name = true)
  | tooDeep {names : List String} (way : place = root ++ names)
      (deep : limits.reach.maxDepth < names.length)
  /-- As many files as the scan may take come before the file. -/
  | beyondLimit (full : limits.maxFiles ≤
      (eligible registry (walk limits.reach top root)).countP fun file => file.path < place)

/-- In a list in the order of the paths, a file is among the first ones when few files come before
it. -/
theorem mem_take_iff {files : List Eligible}
    (inOrder : files.Pairwise fun first second => first.path < second.path) {file : Eligible}
    (member : file ∈ files) (limit : Nat) :
    file ∈ files.take limit ↔ files.countP (fun other => other.path < file.path) < limit := by
  obtain ⟨before, after, rfl⟩ := List.append_of_mem member
  obtain ⟨-, ordered, across⟩ := List.pairwise_append.1 inOrder
  have earlier (other : Eligible) (isBefore : other ∈ before) : other.path < file.path :=
    across other isBefore file List.mem_cons_self
  have notLater (other : Eligible) (isAfter : other ∈ file :: after) :
      ¬ other.path < file.path := by
    rcases List.mem_cons.1 isAfter with rfl | isLater
    · exact List.lt_irrefl _
    · exact fun before => List.lt_irrefl _ (List.lt_trans before
        (List.rel_of_pairwise_cons ordered isLater))
  have counted : (before ++ file :: after).countP (fun other => other.path < file.path) =
      before.length := by
    rw [List.countP_append, List.countP_eq_length.2 (by simpa using earlier),
      List.countP_eq_zero.2 (by simpa using notLater), Nat.add_zero]
  rw [counted]
  constructor
  · intro among
    by_contra full
    rw [List.take_append_of_le_length (Nat.le_of_not_lt full)] at among
    exact List.lt_irrefl _ (earlier file (List.mem_of_mem_take among))
  · intro room
    obtain ⟨others, rfl⟩ := Nat.exists_eq_add_of_lt room
    rw [Nat.add_assoc, List.take_length_add_append, List.take_succ_cons]
    exact List.mem_append_right before List.mem_cons_self

section

variable {top held : Node} {root place : List String} {registry : Registry} {limits : Limits}

/-- There are no other reasons: a file that is not disregarded is taken, and no other one is. -/
theorem disregarded_iff (wellFormed : top.WellFormed) (leads : top.at? root = some held)
    {contents : Contents} (holds : top.at? place = some (.file contents)) :
    Disregarded registry limits top root place ↔
      ∀ file ∈ taken top root registry limits, file.path ≠ place := by
  have inOrder := eligible_inOrder wellFormed leads limits.reach registry
  constructor
  · rintro disregarded file isTaken rfl
    have member := List.mem_of_mem_take isTaken
    obtain ⟨-, registered, names, place, short, isOpen⟩ :=
      (mem_eligible_iff wellFormed leads).1 member
    cases disregarded with
    | outside apart => exact apart ⟨names, place.symm⟩
    | noExtractor unsupported => cases registered.symm.trans unsupported
    | ignored way verdict =>
        have sameNames := List.append_cancel_left (place.symm.trans way)
        exact isOpen _ _ _ sameNames (Or.inl verdict)
    | hidden way silent hides dotted =>
        have sameNames := List.append_cancel_left (place.symm.trans way)
        exact isOpen _ _ _ sameNames (Or.inr ⟨silent, hides, dotted⟩)
    | tooDeep way deep =>
        have sameNames := List.append_cancel_left (place.symm.trans way)
        exact Nat.not_lt.2 short (sameNames ▸ deep)
    | beyondLimit full => exact Nat.not_lt.2 full ((mem_take_iff inOrder member _).1 isTaken)
  · intro notTaken
    by_contra regarded
    obtain ⟨names, way⟩ : root <+: place := by
      by_contra apart
      exact regarded (.outside apart)
    cases registered : registry.forFile? (place.getLast?.getD "") with
    | none => exact regarded (.noExtractor registered)
    | some extractor =>
        have isOpen : Open limits.reach top root names := by
          rintro before name after rfl (verdict | ⟨silent, hides, dotted⟩)
          · exact regarded (.ignored way.symm verdict)
          · exact regarded (.hidden way.symm silent hides dotted)
        have short : names.length ≤ limits.reach.maxDepth :=
          Nat.le_of_not_lt fun deep => regarded (.tooDeep way.symm deep)
        have member :
            ⟨place, contents, extractor⟩ ∈ eligible registry (walk limits.reach top root) :=
          (mem_eligible_iff wellFormed leads).2
            ⟨holds, registered, names, way.symm, short, isOpen⟩
        have room := Nat.lt_of_not_le fun full => regarded (.beyondLimit full)
        exact notTaken _ ((mem_take_iff inOrder member _).2 room) rfl

end

/-! ## Two scans -/

/-- What two scans have in common when one file at most is different: the root, how many files they
take, the entries under all keys but one, and what they report but for the one file. The number of
skipped files is the same or differs by one. -/
structure OnlyItsOwn (limits : Limits) (key : String) (own ownToo : List Log.Event)
    (first second : Result × List Log.Event) : Prop where
  rootText : second.1.root = first.1.root
  scanned : second.1.filesScanned = first.1.filesScanned
  others : ∀ entry : String × Extraction, entry.1 ≠ key →
    (entry ∈ second.1.files ↔ entry ∈ first.1.files)
  skipped : second.1.skipped ≤ first.1.skipped + 1 ∧ first.1.skipped ≤ second.1.skipped + 1
  reported : ∃ before after warnings, (warnings = [] ∨
      warnings = [limitReached limits.maxFiles limits.maxFiles]) ∧
    first.2 = before ++ own ++ after ++ warnings ++ [completed first.1] ∧
    second.2 = before ++ ownToo ++ after ++ warnings ++ [completed second.1]

/-- Tallies of the same things but for one file with another's contents. -/
theorem Tallied.onlyItsOwn {root : List String} {limits : Limits} {before after : List Noted}
    {file other : Eligible} {last lastToo : Progress}
    (tallied : Tallied root limits (before ++ .ok file :: after) last)
    (talliedToo : Tallied root limits (before ++ .ok other :: after) lastToo)
    (samePath : other.path = file.path) {warnings : List Log.Event}
    (limitOnly : warnings = [] ∨ warnings = [limitReached limits.maxFiles limits.maxFiles]) :
    OnlyItsOwn limits (file.key root) (file.reports limits.maxFileSize)
      (other.reports limits.maxFileSize)
      (last.result, last.events ++ warnings ++ [completed last.result])
      (lastToo.result, lastToo.events ++ warnings ++ [completed lastToo.result]) := by
  have sameKey : other.key root = file.key root := by rw [Eligible.key, samePath, Eligible.key]
  constructor
  case rootText => exact talliedToo.rootText.trans tallied.rootText.symm
  case scanned =>
    have sameLength : (filesOf (before ++ .ok other :: after)).length =
        (filesOf (before ++ .ok file :: after)).length := by
      simp only [filesOf_append, filesOf_cons_ok, List.length_append, List.length_cons]
    exact talliedToo.scanned.trans (sameLength.trans tallied.scanned.symm)
  case others =>
    intro entry apart
    have notIts {same : Eligible} (itsKey : same.key root = file.key root) :
        same.kept? root limits.maxFileSize ≠ some entry :=
      fun isKept => apart ((Eligible.key_of_kept? isKept).1.trans itsKey)
    rw [talliedToo.files.mem_iff, tallied.files.mem_iff]
    simp only [filesOf_append, filesOf_cons_ok, List.mem_filterMap, List.mem_append,
      List.mem_cons, or_and_right, exists_or, exists_eq_left, notIts rfl, notIts sameKey, false_or]
  case skipped =>
    rw [tallied.skipped, talliedToo.skipped, filesOf_append, filesOf_append, filesOf_cons_ok,
      filesOf_cons_ok, List.countP_append, List.countP_append, List.countP_cons, List.countP_cons]
    constructor <;> split <;> split <;> omega
  case reported =>
    refine ⟨started root limits :: before.flatMap (Noted.reports limits.maxFileSize),
      after.flatMap (Noted.reports limits.maxFileSize), warnings, limitOnly, ?_, ?_⟩
    · simp only [tallied.events, List.flatMap_append, List.flatMap_cons, List.cons_append,
        List.append_assoc, Noted.reports]
    · simp only [talliedToo.events, List.flatMap_append, List.flatMap_cons, List.cons_append,
        List.append_assoc, Noted.reports]

namespace Versions

variable {root place : List String} {contents contentsToo : Contents} {first second : Node}
  {registry : Registry} {limits : Limits}
  (versions : Versions root place contents contentsToo first second)

include versions

theorem length_eligible :
    (eligible registry (walk limits.reach second root)).length =
      (eligible registry (walk limits.reach first root)).length := by
  rw [← filesOf_noted, versions.noted_revised, length_filesOf_map_revised, filesOf_noted]

/-- A file that is disregarded has no part in a scan. -/
theorem scanAt_eq (disregarded : Disregarded registry limits first root place) :
    scanAt second root registry limits = scanAt first root registry limits := by
  obtain ⟨held, leads, _⟩ := versions.leads
  have elsewhere := (disregarded_iff versions.wellFormed leads versions.holds).1 disregarded
  have sameWithin : within limits.maxFiles (noted registry (walk limits.reach second root)) =
      within limits.maxFiles (noted registry (walk limits.reach first root)) := by
    rw [versions.noted_revised, within_map_revised, map_revised_of_ne]
    rw [filesOf_within_noted]
    exact elsewhere
  simp only [scanAt_eq_foldl, sameWithin, filesOf_noted, versions.length_eligible]

/-- A file that is taken has a part in a scan as far as it goes itself. -/
theorem onlyItsOwn (regarded : ¬ Disregarded registry limits first root place) :
    ∃ extractor, registry.forFile? (place.getLast?.getD "") = some extractor ∧
      OnlyItsOwn limits (keyBelow root place)
        (Eligible.reports limits.maxFileSize ⟨place, contents, extractor⟩)
        (Eligible.reports limits.maxFileSize ⟨place, contentsToo, extractor⟩)
        (scanAt first root registry limits) (scanAt second root registry limits) := by
  obtain ⟨held, leads, isDirectory⟩ := versions.leads
  obtain ⟨heldToo, leadsToo, isDirectoryToo⟩ := versions.symm.leads
  rw [disregarded_iff versions.wellFormed leads versions.holds] at regarded
  push Not at regarded
  obtain ⟨⟨path, own, extractor⟩, isTaken, here⟩ := regarded
  obtain ⟨stands, registered, -⟩ :=
    (mem_eligible_iff versions.wellFormed leads).1 (List.mem_of_mem_take isTaken)
  obtain rfl : path = place := here
  obtain rfl : contents = own := Node.file.inj (Option.some.inj (versions.holds.symm.trans stands))
  rw [taken, ← filesOf_within_noted, mem_filesOf_iff] at isTaken
  obtain ⟨before, after, split⟩ := List.append_of_mem isTaken
  have inOrder : (filesOf (before ++ .ok ⟨path, contents, extractor⟩ :: after)).Pairwise
      fun first second => first.path < second.path := by
    rw [← split, filesOf_within_noted]
    exact versions.inOrder.sublist (List.take_sublist limits.maxFiles _)
  have splitToo : within limits.maxFiles (noted registry (walk limits.reach second root)) =
      before ++ .ok ⟨path, contentsToo, extractor⟩ :: after := by
    rw [versions.noted_revised, within_map_revised, split]
    exact map_revised inOrder
  obtain ⟨last, tallied, run⟩ :=
    exists_tallied_scanAt versions.wellFormed leads isDirectory registry limits
  obtain ⟨lastToo, talliedToo, runToo⟩ :=
    exists_tallied_scanAt versions.wellFormedToo leadsToo isDirectoryToo registry limits
  rw [split] at tallied
  rw [splitToo] at talliedToo
  rw [run, runToo, versions.length_eligible]
  refine ⟨extractor, registered, tallied.onlyItsOwn talliedToo rfl ?_⟩
  split
  · exact Or.inr rfl
  · exact Or.inl rfl

end Versions

/-- Of two versions of a tree that differ in what one file holds, which is no ignore file, the scans
of a directory are the same in all they find and report when there is a reason to disregard the
file. Otherwise the file is one for which there is an extractor, and they differ at most in its
entry, by one in the number of skipped files, and in what is reported while it is read. -/
theorem scan_heeds_file_alone {store : Store} {other : Node} {place : List String}
    (wellFormed : store.root.WellFormed) (otherWellFormed : other.WellFormed)
    (differ : store.root.DifferAt place other) (noRules : HoldsNoRules place)
    {path : String} {root : List String} {held : Node} (finds : store.find path = .ok (root, held))
    (isDirectory : held.isDirectory = true) (registry : Registry) (limits : Limits) :
    ∃ first second : Result × List Log.Event,
      scan store registry limits path = (.ok first.1, first.2) ∧
      scan { store with root := other } registry limits path = (.ok second.1, second.2) ∧
      (Disregarded registry limits store.root root place → second = first) ∧
      (¬ Disregarded registry limits store.root root place →
        ∃ extractor contents contentsToo,
          registry.forFile? (place.getLast?.getD "") = some extractor ∧
          store.root.at? place = some (.file contents) ∧
          other.at? place = some (.file contentsToo) ∧
          OnlyItsOwn limits (keyBelow root place)
            (Eligible.reports limits.maxFileSize ⟨place, contents, extractor⟩)
            (Eligible.reports limits.maxFileSize ⟨place, contentsToo, extractor⟩)
            first second) := by
  obtain ⟨heldToo, findsToo, stays⟩ := Store.exists_find_of_differAt differ finds isDirectory
  obtain ⟨contents, holds⟩ := differ.held
  obtain ⟨contentsToo, holdsToo⟩ := differ.heldToo
  have versions : Versions root place contents contentsToo store.root other :=
    ⟨wellFormed, otherWellFormed, differ, noRules,
      ⟨held, Store.at?_of_find finds, isDirectory⟩, holds, holdsToo⟩
  refine ⟨scanAt store.root root registry limits, scanAt other root registry limits,
    scan_eq finds isDirectory registry limits,
    scan_eq findsToo (stays.isDirectory_eq.trans isDirectory) registry limits,
    versions.scanAt_eq, ?_⟩
  intro regarded
  obtain ⟨extractor, registered, onlyItsOwn⟩ := versions.onlyItsOwn regarded
  exact ⟨extractor, contents, contentsToo, registered, holds, holdsToo, onlyItsOwn⟩

/-- A file of two that holds a text in one version and no text in the other. The scan takes it, so
the two scans differ in what is its own. -/
theorem scan_heeds_file_alone_of_two :
    let place := ["work", "b.py"]
    let first := (Node.emptyDirectory.put ["work", "a.py"] (.file "import re".toUTF8)).put place
      (.file "import os".toUTF8)
    let second := first.put place (.file (ByteArray.mk #[0xff]))
    ∃ found foundToo : Result × List Log.Event,
      scan ⟨first, []⟩ .defaults .usual "/work" = (.ok found.1, found.2) ∧
      scan ⟨second, []⟩ .defaults .usual "/work" = (.ok foundToo.1, foundToo.2) ∧
      ¬ Disregarded .defaults .usual first ["work"] place ∧
      ∃ extractor contents contentsToo,
        Registry.defaults.forFile? (place.getLast?.getD "") = some extractor ∧
        first.at? place = some (.file contents) ∧ second.at? place = some (.file contentsToo) ∧
        OnlyItsOwn .usual (keyBelow ["work"] place)
          (Eligible.reports Limits.usual.maxFileSize ⟨place, contents, extractor⟩)
          (Eligible.reports Limits.usual.maxFileSize ⟨place, contentsToo, extractor⟩)
          found foundToo := by
  intro place first second
  have wellFormed : first.WellFormed :=
    (Node.wellFormed_emptyDirectory.put (by decide +kernel) (.file _)).put (by decide +kernel)
      (.file _)
  have finds : Store.find ⟨first, []⟩ "/work" = .ok (["work"], .directory
      [("a.py", .file "import re".toUTF8), ("b.py", .file "import os".toUTF8)]) :=
    Store.find_of_follow (by decide) (by decide) (by decide) rfl rfl
  have regarded : ¬ Disregarded .defaults .usual first ["work"] place := by
    rw [disregarded_iff wellFormed (Store.at?_of_find finds) rfl]
    decide +kernel
  have differ : first.DifferAt place second := Node.differAt_put rfl _
  have noRules : HoldsNoRules place := by decide +kernel
  obtain ⟨found, foundToo, run, runToo, -, onlyItsOwn⟩ :=
    scan_heeds_file_alone wellFormed (wellFormed.put (by decide +kernel) (.file _)) differ noRules
      finds rfl .defaults .usual
  exact ⟨found, foundToo, run, runToo, regarded, onlyItsOwn regarded⟩

/-- A hidden file that a rule keeps has a part in a scan without hidden files. -/
theorem kept_hidden_file_is_heeded :
    let place := ["work", ".a.py"]
    let first := (Node.emptyDirectory.put ["work", ".gitignore"] (.file "!.a.py".toUTF8)).put place
      (.file "import os".toUTF8)
    let second := first.put place (.file "import re".toUTF8)
    isHidden ".a.py" = true ∧ Limits.usual.reach.hidden = false ∧ HoldsNoRules place ∧
      first.DifferAt place second ∧
      ∃ found foundToo events eventsToo,
        scan ⟨first, []⟩ .defaults .usual "/work" = (.ok found, events) ∧
        scan ⟨second, []⟩ .defaults .usual "/work" = (.ok foundToo, eventsToo) ∧
        found.files ≠ foundToo.files := by
  intro place first second
  have finds : Store.find ⟨first, []⟩ "/work" = .ok (["work"], .directory
      [(".a.py", .file "import os".toUTF8), (".gitignore", .file "!.a.py".toUTF8)]) :=
    Store.find_of_follow (by decide) (by decide) (by decide) rfl rfl
  have findsToo : Store.find ⟨second, []⟩ "/work" = .ok (["work"], .directory
      [(".a.py", .file "import re".toUTF8), (".gitignore", .file "!.a.py".toUTF8)]) :=
    Store.find_of_follow (by decide) (by decide) (by decide) rfl rfl
  have apart : (scanAt first ["work"] .defaults .usual).1.files ≠
      (scanAt second ["work"] .defaults .usual).1.files := by decide +kernel
  refine ⟨by decide +kernel, rfl, by decide +kernel, Node.differAt_put rfl _,
    (scanAt first ["work"] .defaults .usual).1, (scanAt second ["work"] .defaults .usual).1,
    (scanAt first ["work"] .defaults .usual).2, (scanAt second ["work"] .defaults .usual).2,
    scan_eq finds rfl _ _, scan_eq findsToo rfl _ _, apart⟩

end LibraryScout.Scan
