import LibraryScout.Extractors
import LibraryScout.Proofs.Scan.Noted

/-!
Contract: a scan accounts for every file that it may take.

Owns:
- `within`, what a scan has to do with of all that it takes note of, and that a scan is a run over
  this, one thing after the other;
- `Tallied`, what holds between two things: the progress is the tally of those so far. One thing
  keeps it, and so does every run over files of different keys;
- `Accounts`, what a finished scan says about what its walk met.

Does not own: what the walk meets, and what the extractors find.
-/

namespace LibraryScout.Scan

open LibraryScout.Source

/-! ## One step -/

/-- The progress after one more file is taken. -/
def Progress.take (root : List String) (maxFileSize : Nat) (progress : Progress)
    (file : Eligible) : Progress :=
  progress.count.read root maxFileSize file.path file.contents file.extractor

/-- The progress after one more thing that the scan takes note of. -/
def Progress.note (root : List String) (maxFileSize : Nat) (progress : Progress) :
    Noted → Progress
  | .ok file => progress.take root maxFileSize file
  | .error hindrance => progress.report [hindered hindrance]

section

variable {root : List String} {registry : Registry} {limits : Limits} {progress : Progress}
  {item : Item}

/-- Everything that a scan can do with an item of its walk. -/
theorem visit_eq :
    visit root registry limits progress item =
      match Noted.of? registry item with
      | none => .goOn progress
      | some (.error hindrance) => .goOn (progress.report [hindered hindrance])
      | some (.ok file) =>
          if limits.maxFiles ≤ progress.result.filesScanned then
            .stop (progress.report [limitReached progress.result.filesScanned limits.maxFiles])
          else
            .goOn (progress.take root limits.maxFileSize file) := by
  cases item with
  | error hindrance => rfl
  | ok found =>
      obtain ⟨path, node⟩ := found
      cases node with
      | directory | closedDirectory => rfl
      | file contents =>
          simp only [visit, Noted.of?, Eligible.of?]
          cases registry.forFile? (Found.name ⟨path, .file contents⟩) <;> rfl

/-- What is not noted is passed by. -/
theorem visitAll_cons_of_none (passed : Noted.of? registry item = none) (later : List Item) :
    visitAll root registry limits progress (item :: later) =
      visitAll root registry limits progress later := by
  rw [visitAll, visit_eq, passed]

/-- A hindrance is reported. -/
theorem visitAll_cons_of_error {hindrance : Hindrance}
    (isNoted : Noted.of? registry item = some (.error hindrance)) (later : List Item) :
    visitAll root registry limits progress (item :: later) =
      visitAll root registry limits (progress.report [hindered hindrance]) later := by
  rw [visitAll, visit_eq, isNoted]

/-- The first file over the limit ends the scan, whatever comes after it. -/
theorem visitAll_cons_of_full {file : Eligible}
    (isNoted : Noted.of? registry item = some (.ok file))
    (full : limits.maxFiles ≤ progress.result.filesScanned) (later : List Item) :
    visitAll root registry limits progress (item :: later) =
      progress.report [limitReached progress.result.filesScanned limits.maxFiles] := by
  rw [visitAll, visit_eq, isNoted]
  simp only [if_pos full]

/-- Below the limit a file is taken. -/
theorem visitAll_cons_of_room {file : Eligible}
    (isNoted : Noted.of? registry item = some (.ok file))
    (room : ¬ limits.maxFiles ≤ progress.result.filesScanned) (later : List Item) :
    visitAll root registry limits progress (item :: later) =
      visitAll root registry limits (progress.take root limits.maxFileSize file) later := by
  rw [visitAll, visit_eq, isNoted]
  simp only [if_neg room]

end

/-- A taken file is counted, either as skipped or with its extraction, and its reports are
added. -/
theorem take_eq (root : List String) (maxFileSize : Nat) (progress : Progress)
    (file : Eligible) :
    progress.take root maxFileSize file =
      match file.kept? root maxFileSize with
      | none => (progress.count.report (file.reports maxFileSize)).skip
      | some (key, extraction) =>
          (progress.count.report (file.reports maxFileSize)).keep key extraction := by
  unfold Progress.take Progress.read Eligible.kept? Eligible.text? Eligible.reports
  by_cases large : maxFileSize < file.contents.size
  · simp [large]
  · cases decoded : file.contents.text with
    | error fault => simp [large, Except.toOption]
    | ok text =>
        simp only [if_neg large, Except.toOption, Option.map_some]
        rfl

/-- What a scan knows after some things that it took note of: its progress is their tally. -/
structure Tallied (root : List String) (limits : Limits) (items : List Noted)
    (progress : Progress) : Prop where
  rootText : progress.result.root = Files.Store.pathText root
  scanned : progress.result.filesScanned = (filesOf items).length
  skipped : progress.result.skipped =
    (filesOf items).countP fun file => file.IsSkipped limits.maxFileSize
  files : progress.result.files.Perm
    ((filesOf items).filterMap (Eligible.kept? root limits.maxFileSize))
  events : progress.events =
    started root limits :: items.flatMap (Noted.reports limits.maxFileSize)

theorem tallied_start (root : List String) (limits : Limits) :
    Tallied root limits [] (.start root limits) :=
  ⟨rfl, rfl, rfl, List.Perm.refl _, rfl⟩

section

variable {root : List String} {limits : Limits} {items : List Noted} {progress : Progress}

/-- What is reported about one more thing comes after all other reports. -/
theorem Tallied.events_append (tallied : Tallied root limits items progress) (item : Noted) :
    progress.events ++ item.reports limits.maxFileSize =
      started root limits :: (items ++ [item]).flatMap (Noted.reports limits.maxFileSize) := by
  rw [tallied.events, List.flatMap_append, List.flatMap_singleton, List.cons_append]

/-- A hindrance keeps the tally. -/
theorem Tallied.hindered (tallied : Tallied root limits items progress) (hindrance : Hindrance) :
    Tallied root limits (items ++ [.error hindrance])
      (progress.report [Scan.hindered hindrance]) := by
  have sameFiles : filesOf (items ++ [.error hindrance]) = filesOf items := by simp
  constructor <;> try rw [sameFiles]
  case rootText => exact tallied.rootText
  case scanned => exact tallied.scanned
  case skipped => exact tallied.skipped
  case files => exact tallied.files
  case events => exact tallied.events_append (.error hindrance)

/-- One more file keeps the tally, unless its key is that of a file taken before. -/
theorem Tallied.take (tallied : Tallied root limits items progress) {file : Eligible}
    (newKey : file.key root ∉ (filesOf items).map (Eligible.key root)) :
    Tallied root limits (items ++ [.ok file]) (progress.take root limits.maxFileSize file) := by
  have moreFiles : filesOf (items ++ [.ok file]) = filesOf items ++ [file] := by simp
  have reported : progress.events ++ file.reports limits.maxFileSize = _ :=
    tallied.events_append (.ok file)
  have counted : progress.result.filesScanned + 1 = (filesOf items ++ [file]).length := by
    rw [tallied.scanned, List.length_append, List.length_singleton]
  rw [take_eq]
  rcases file.kept?_cases root limits.maxFileSize with
    ⟨isSkipped, notKept⟩ | ⟨notSkipped, text, _, isKept⟩
  · rw [notKept]
    refine ⟨tallied.rootText, moreFiles ▸ counted, ?_, ?_, reported⟩ <;> rw [moreFiles]
    · simp [List.countP_append, isSkipped, tallied.skipped]
    · simp [List.filterMap_append, notKept, tallied.files]
  · have absent : file.key root ∉ progress.result.files.map Prod.fst := by
      intro member
      have inEntries := (tallied.files.map Prod.fst).mem_iff.1 member
      exact newKey ((keys_entries_sublist root limits.maxFileSize _).subset inEntries)
    rw [isKept]
    refine ⟨tallied.rootText, moreFiles ▸ counted, ?_, ?_, reported⟩ <;> rw [moreFiles]
    · simp [List.countP_append, notSkipped, tallied.skipped]
    · have inserted := Files.insert_perm absent (file.extractor.extract text).1
      have appended := (tallied.files.cons
        (file.key root, (file.extractor.extract text).1)).trans
          (List.perm_append_singleton _ _).symm
      simpa [List.filterMap_append, isKept] using inserted.trans appended

/-- Every taken file is skipped, and then has no extraction, or its extraction is there under its
key. -/
theorem Tallied.handled (tallied : Tallied root limits items progress)
    (distinct : ((filesOf items).map (Eligible.key root)).Nodup) {file : Eligible}
    (member : file ∈ filesOf items) :
    (file.IsSkipped limits.maxFileSize ∧ file.key root ∉ progress.result.files.map Prod.fst) ∨
      (¬ file.IsSkipped limits.maxFileSize ∧ ∃ text : String, file.contents = text.toUTF8 ∧
        (file.key root, (file.extractor.extract text).1) ∈ progress.result.files) := by
  rcases file.kept?_cases root limits.maxFileSize with
    ⟨isSkipped, _⟩ | ⟨notSkipped, text, sameBytes, isKept⟩
  · refine Or.inl ⟨isSkipped, ?_⟩
    intro present
    obtain ⟨other, otherMember, notSkipped, sameKey⟩ :=
      exists_file_of_mem_keys ((tallied.files.map Prod.fst).mem_iff.1 present)
    have sameFile := List.inj_on_of_nodup_map distinct otherMember member sameKey
    exact notSkipped (sameFile ▸ isSkipped)
  · refine Or.inr ⟨notSkipped, text, sameBytes, ?_⟩
    exact tallied.files.mem_iff.2 (List.mem_filterMap.2 ⟨file, member, isKept⟩)

theorem Tallied.balanced (tallied : Tallied root limits items progress) :
    progress.result.files.length + progress.result.skipped = progress.result.filesScanned := by
  rw [tallied.files.length_eq, tallied.skipped, tallied.scanned]
  exact length_entries_add_countP root limits.maxFileSize (filesOf items)

theorem Tallied.keysDistinct (tallied : Tallied root limits items progress)
    (distinct : ((filesOf items).map (Eligible.key root)).Nodup) :
    (progress.result.files.map Prod.fst).Nodup := by
  have entriesDistinct := distinct.sublist (keys_entries_sublist root limits.maxFileSize _)
  exact (tallied.files.map Prod.fst).nodup_iff.2 entriesDistinct

end

/-! ## The whole walk -/

@[simp] theorem take_filesScanned (root : List String) (maxFileSize : Nat) (progress : Progress)
    (file : Eligible) :
    (progress.take root maxFileSize file).result.filesScanned =
      progress.result.filesScanned + 1 := by
  rw [take_eq]
  split <;> rfl

/-- What comes before the first file for which there is no room. -/
def within : Nat → List Noted → List Noted
  | _, [] => []
  | room, .error hindrance :: later => .error hindrance :: within room later
  | 0, .ok _ :: _ => []
  | fewer + 1, .ok file :: later => .ok file :: within fewer later

/-- There is room for the first files. -/
@[simp] theorem filesOf_within (room : Nat) (items : List Noted) :
    filesOf (within room items) = (filesOf items).take room := by
  induction items generalizing room with
  | nil => simp [within]
  | cons item later inductionHypothesis =>
      cases item with
      | error hindrance => simp [within, inductionHypothesis]
      | ok file => cases room <;> simp [within, inductionHypothesis]

theorem filesOf_within_noted (room : Nat) (registry : Registry) (walked : List Item) :
    filesOf (within room (noted registry walked)) = (eligible registry walked).take room := by
  rw [filesOf_within, filesOf_noted]

/-- A run over items of the walk deals with what it takes note of, one after the other, up to the
first file for which the limit leaves no room, and reports the limit when there is such a file. -/
theorem visitAll_eq_foldl (root : List String) (registry : Registry) (limits : Limits)
    (progress : Progress) (walked : List Item) :
    visitAll root registry limits progress walked =
      let items := noted registry walked
      let room := limits.maxFiles - progress.result.filesScanned
      let last := (within room items).foldl (Progress.note root limits.maxFileSize) progress
      if room < (filesOf items).length then
        last.report [limitReached last.result.filesScanned limits.maxFiles]
      else
        last := by
  induction walked generalizing progress with
  | nil => simp [noted, within, visitAll]
  | cons item later inductionHypothesis =>
      cases candidate : Noted.of? registry item with
      | none =>
          rw [noted_cons_of_none candidate, visitAll_cons_of_none candidate, inductionHypothesis]
      | some found =>
          rw [noted_cons_of_some candidate]
          cases found with
          | error hindrance =>
              rw [visitAll_cons_of_error candidate, inductionHypothesis]
              rfl
          | ok file =>
              by_cases full : limits.maxFiles ≤ progress.result.filesScanned
              · have noRoom : limits.maxFiles - progress.result.filesScanned = 0 :=
                  Nat.sub_eq_zero_of_le full
                simp [visitAll_cons_of_full candidate full, noRoom, within]
              · have room : limits.maxFiles - progress.result.filesScanned =
                    limits.maxFiles - (progress.result.filesScanned + 1) + 1 := by omega
                rw [visitAll_cons_of_room candidate full, inductionHypothesis, take_filesScanned]
                simp only [room, within, List.foldl_cons, filesOf_cons_ok, List.length_cons,
                  Nat.add_lt_add_iff_right]
                rfl

/-- A scan is a function of what it takes note of. -/
theorem scanAt_eq_foldl (node : Files.Node) (root : List String) (registry : Registry)
    (limits : Limits) :
    scanAt node root registry limits =
      let items := noted registry (walk limits.reach node root)
      let last := (within limits.maxFiles items).foldl (Progress.note root limits.maxFileSize)
        (.start root limits)
      (last.result, last.events ++
        (if limits.maxFiles < (filesOf items).length then
          [limitReached last.result.filesScanned limits.maxFiles] else []) ++
        [completed last.result]) := by
  have nothingYet : (Progress.start root limits).result.filesScanned = 0 := rfl
  simp only [scanAt, visitAll_eq_foldl, nothingYet, Nat.sub_zero]
  split <;> simp

/-- Hindrances, and files of different keys, keep the tally. -/
theorem Tallied.foldl_note {root : List String} {limits : Limits} {before : List Noted}
    {progress : Progress} (tallied : Tallied root limits before progress) {items : List Noted}
    (distinct : ((filesOf (before ++ items)).map (Eligible.key root)).Nodup) :
    Tallied root limits (before ++ items)
      (items.foldl (Progress.note root limits.maxFileSize) progress) := by
  induction items generalizing before progress with
  | nil => simpa using tallied
  | cons item later inductionHypothesis =>
      cases item with
      | error hindrance =>
          rw [List.append_cons] at distinct ⊢
          exact inductionHypothesis (tallied.hindered hindrance) distinct
      | ok file =>
          have newKey : file.key root ∉ (filesOf before).map (Eligible.key root) := by
            rw [filesOf_append, filesOf_cons_ok, List.map_append, List.map_cons] at distinct
            have apart := (List.nodup_append.1 distinct).2.2
            intro member
            exact apart _ member _ List.mem_cons_self rfl
          rw [List.append_cons] at distinct ⊢
          exact inductionHypothesis (tallied.take newKey) distinct

/-- What a scan of a directory of a well-formed tree finds and reports is the tally of what it takes
note of up to its limit. -/
theorem exists_tallied_scanAt {node held : Files.Node} {root : List String}
    (wellFormed : node.WellFormed) (leads : node.at? root = some held)
    (isDirectory : held.isDirectory = true) (registry : Registry) (limits : Limits) :
    ∃ last, Tallied root limits
        (within limits.maxFiles (noted registry (walk limits.reach node root))) last ∧
      scanAt node root registry limits =
        (last.result, last.events ++
          (if limits.maxFiles < (eligible registry (walk limits.reach node root)).length then
            [limitReached limits.maxFiles limits.maxFiles] else []) ++
          [completed last.result]) := by
  have distinct := nodup_keys wellFormed leads isDirectory limits.reach registry
  have takenDistinct :
      ((filesOf ([] ++ within limits.maxFiles (noted registry (walk limits.reach node root)))).map
        (Eligible.key root)).Nodup := by
    rw [List.nil_append, filesOf_within_noted]
    exact distinct.sublist ((List.take_sublist limits.maxFiles _).map _)
  have tallied := (tallied_start root limits).foldl_note takenDistinct
  rw [List.nil_append] at tallied
  refine ⟨_, tallied, ?_⟩
  rw [scanAt_eq_foldl]
  simp only [filesOf_noted]
  by_cases more : limits.maxFiles < (eligible registry (walk limits.reach node root)).length
  · have atLimit := tallied.scanned
    rw [filesOf_within_noted, List.length_take, Nat.min_eq_left (Nat.le_of_lt more)] at atLimit
    simp only [if_pos more, atLimit]
  · simp only [if_neg more]

/-! ## The finished scan -/

/-- The report that a scan has come to its limit. -/
def isLimitWarning (event : Log.Event) : Bool :=
  event.severity = .warn ∧ event.origin = .scan ∧
    event.message = "Reached file limit, stopping scan"

/-- The first and the last report of a scan are no limit warnings. -/
theorem countP_isLimitWarning_append (root : List String) (limits : Limits) (result : Result)
    (reports warnings : List Log.Event) :
    (started root limits :: reports ++ warnings ++ [completed result]).countP isLimitWarning =
      reports.countP isLimitWarning + warnings.countP isLimitWarning := by
  have startedOther : isLimitWarning (started root limits) = false := rfl
  have completedOther : isLimitWarning (completed result) = false := rfl
  rw [List.cons_append, List.cons_append, List.countP_cons_of_neg (by simp [startedOther]),
    List.countP_append, List.countP_append, List.countP_singleton, completedOther]
  rfl

/-- The report of a hindrance is no limit warning, so only reports about files can be. -/
theorem countP_isLimitWarning_reports (maxFileSize : Nat) (items : List Noted) :
    (items.flatMap (Noted.reports maxFileSize)).countP isLimitWarning =
      ((filesOf items).flatMap (Eligible.reports maxFileSize)).countP isLimitWarning := by
  induction items with
  | nil => rfl
  | cons item later inductionHypothesis =>
      cases item with
      | ok file =>
          rw [filesOf_cons_ok, List.flatMap_cons, List.flatMap_cons, List.countP_append,
            List.countP_append, inductionHypothesis]
          rfl
      | error hindrance =>
          have other : isLimitWarning (hindered hindrance) = false := by
            simp [isLimitWarning, hindered, Log.Event.withText, Log.Event.warn]
          rw [filesOf_cons_error, List.flatMap_cons, List.countP_append, inductionHypothesis,
            Noted.reports, List.countP_singleton, other]
          exact Nat.zero_add _

/-- What the result and the reports of a scan say about what its walk met. The files taken are the
first ones in the order of the walk, `filesScanned` in number. -/
structure Accounts (root : List String) (registry : Registry) (limits : Limits)
    (walked : List Item) (result : Result) (events : List Log.Event) : Prop where
  rootText : result.root = Files.Store.pathText root
  inOrder : (eligible registry walked).Pairwise fun first second => first.path < second.path
  scanned : result.filesScanned = min limits.maxFiles (eligible registry walked).length
  /-- A taken file is skipped, or its extraction is there under its key. -/
  handled : ∀ file ∈ (eligible registry walked).take result.filesScanned,
    (file.IsSkipped limits.maxFileSize ∧ file.key root ∉ result.files.map Prod.fst) ∨
      (¬ file.IsSkipped limits.maxFileSize ∧ ∃ text : String, file.contents = text.toUTF8 ∧
        (file.key root, (file.extractor.extract text).1) ∈ result.files)
  /-- There are no extractions but those of taken files. -/
  nothingElse : ∀ key ∈ result.files.map Prod.fst,
    ∃ file ∈ (eligible registry walked).take result.filesScanned,
      ¬ file.IsSkipped limits.maxFileSize ∧ file.key root = key
  skipped : result.skipped = ((eligible registry walked).take result.filesScanned).countP
    fun file => file.IsSkipped limits.maxFileSize
  balanced : result.files.length + result.skipped = result.filesScanned
  keysDistinct : (result.files.map Prod.fst).Nodup
  eligibleKeysDistinct : ((eligible registry walked).map (Eligible.key root)).Nodup
  /-- What is reported of hindrances and files, up to the first file over the limit, stands between
  the reports that the scan starts, comes to its limit and is completed. -/
  reported : events = started root limits ::
    (within limits.maxFiles (noted registry walked)).flatMap (Noted.reports limits.maxFileSize) ++
      (if limits.maxFiles < (eligible registry walked).length then
        [limitReached limits.maxFiles limits.maxFiles] else []) ++
      [completed result]
  /-- Besides what the extractors report, the limit is reported once, if there are more files. -/
  limitWarned : events.countP isLimitWarning =
    (((eligible registry walked).take result.filesScanned).flatMap
        (Eligible.reports limits.maxFileSize)).countP isLimitWarning +
      if limits.maxFiles < (eligible registry walked).length then 1 else 0

/-- A tally of the first files is what a finished scan has to say about them. -/
theorem Tallied.accounts {root : List String} {registry : Registry} {limits : Limits}
    {walked : List Item} {last : Progress}
    (tallied : Tallied root limits (within limits.maxFiles (noted registry walked)) last)
    (inOrder : (eligible registry walked).Pairwise fun first second => first.path < second.path)
    (distinct : ((eligible registry walked).map (Eligible.key root)).Nodup) :
    Accounts root registry limits walked last.result
      (last.events ++
        (if limits.maxFiles < (eligible registry walked).length then
          [limitReached limits.maxFiles limits.maxFiles] else []) ++
        [completed last.result]) := by
  have isTaken := filesOf_within_noted limits.maxFiles registry walked
  have scanned : last.result.filesScanned =
      min limits.maxFiles (eligible registry walked).length := by
    rw [tallied.scanned, isTaken, List.length_take]
  have sameTaken : (eligible registry walked).take last.result.filesScanned =
      filesOf (within limits.maxFiles (noted registry walked)) := by
    rw [scanned, ← List.take_eq_take_min, isTaken]
  have takenDistinct : ((filesOf (within limits.maxFiles (noted registry walked))).map
      (Eligible.key root)).Nodup := by
    rw [isTaken]
    exact distinct.sublist ((List.take_sublist _ _).map _)
  constructor
  case rootText => exact tallied.rootText
  case inOrder => exact inOrder
  case scanned => exact scanned
  case handled =>
    rw [sameTaken]
    exact fun file member => tallied.handled takenDistinct member
  case nothingElse =>
    rw [sameTaken]
    intro key member
    exact exists_file_of_mem_keys ((tallied.files.map Prod.fst).mem_iff.1 member)
  case skipped =>
    rw [sameTaken]
    exact tallied.skipped
  case balanced => exact tallied.balanced
  case keysDistinct => exact tallied.keysDistinct takenDistinct
  case eligibleKeysDistinct => exact distinct
  case reported => rw [tallied.events]
  case limitWarned =>
    rw [sameTaken, tallied.events, countP_isLimitWarning_append, countP_isLimitWarning_reports]
    split
    · rfl
    · rfl

/-- The alarms of a scan are those about hindrances and files, and the one about its limit. -/
theorem Accounts.alarms {root : List String} {registry : Registry} {limits : Limits}
    {walked : List Item} {result : Result} {events : List Log.Event}
    (accounts : Accounts root registry limits walked result events) :
    events.filter Log.Event.isAlarm =
      ((within limits.maxFiles (noted registry walked)).flatMap
        (Noted.reports limits.maxFileSize)).filter Log.Event.isAlarm ++
      if limits.maxFiles < (eligible registry walked).length then
        [limitReached limits.maxFiles limits.maxFiles] else [] := by
  have startedOther : ¬ (started root limits).isAlarm = true := Bool.false_ne_true
  have completedOther : ¬ (completed result).isAlarm = true := Bool.false_ne_true
  rw [accounts.reported, List.cons_append, List.cons_append, List.filter_cons_of_neg startedOther,
    List.filter_append, List.filter_append, List.filter_cons_of_neg completedOther,
    List.filter_nil, List.append_nil]
  congr 1
  split <;> rfl

/-- No extractor raises events in the scan's name. -/
def LeavesScanReports (registry : Registry) : Prop :=
  ∀ extractor ∈ registry.extractors, ∀ text,
    ∀ event ∈ (extractor.extract text).2, event.origin ≠ .scan

/-- With extractors that leave its reports to the scan, the limit is reported once when there are
more files than the scan may take, and otherwise never. -/
theorem Accounts.countP_isLimitWarning {root : List String} {registry : Registry}
    {limits : Limits} {walked : List Item} {result : Result} {events : List Log.Event}
    (accounts : Accounts root registry limits walked result events)
    (leavesReports : LeavesScanReports registry) :
    events.countP isLimitWarning =
      if limits.maxFiles < (eligible registry walked).length then 1 else 0 := by
  rw [accounts.limitWarned, Nat.add_eq_right, List.countP_eq_zero]
  intro event member
  obtain ⟨file, taken, raised⟩ := List.mem_flatMap.1 member
  obtain ⟨item, _, isEligible⟩ := List.mem_filterMap.1 (List.mem_of_mem_take taken)
  have registered := List.mem_of_find?_eq_some (Eligible.of?_eq_some_iff.1 isEligible).2
  rw [Eligible.reports] at raised
  split at raised
  · exact absurd raised List.not_mem_nil
  · split at raised
    next text _ =>
      have otherOrigin := leavesReports file.extractor registered text event raised
      simp [isLimitWarning, otherOrigin]
    next =>
      rw [List.mem_singleton.1 raised]
      simp [isLimitWarning, unreadable, Log.Event.withText, Log.Event.warn]

/-- The extractors of the supported kinds leave the scan's reports to the scan. -/
theorem defaults_leavesScanReports : LeavesScanReports .defaults := by
  intro extractor member text event raised
  have isDefault : extractor ∈ Extractor.all := member
  simp only [Extractor.all, List.mem_cons, List.not_mem_nil, or_false] at isDefault
  rcases isDefault with rfl | rfl | rfl | rfl | rfl | rfl
  case inl =>
    simp only [Extractor.java, Imports.Java.extract] at raised
    split at raised
    · rw [List.mem_singleton.1 raised]
      exact nofun
    · exact absurd raised List.not_mem_nil
  case inr.inr.inr.inl =>
    simp only [Extractor.pomXml, Manifest.Pom.extract] at raised
    split at raised
    · exact absurd raised List.not_mem_nil
    · rw [List.mem_singleton.1 raised]
      exact nofun
  case inr.inr.inr.inr.inl =>
    simp only [Extractor.packageJson, Manifest.Package.extract] at raised
    split at raised
    · exact absurd raised List.not_mem_nil
    · rw [List.mem_singleton.1 raised]
      exact nofun
  all_goals exact absurd raised List.not_mem_nil

/-- What a scan of a directory of a well-formed tree finds and reports is an account of what its
walk met. -/
theorem accounts_scanAt {node held : Files.Node} {root : List String}
    (wellFormed : node.WellFormed) (leads : node.at? root = some held)
    (isDirectory : held.isDirectory = true) (registry : Registry) (limits : Limits) :
    Accounts root registry limits (walk limits.reach node root)
      (scanAt node root registry limits).1 (scanAt node root registry limits).2 := by
  obtain ⟨last, tallied, run⟩ :=
    exists_tallied_scanAt wellFormed leads isDirectory registry limits
  rw [run]
  exact tallied.accounts (eligible_inOrder wellFormed leads limits.reach registry)
    (nodup_keys wellFormed leads isDirectory limits.reach registry)

theorem scan_eq {store : Files.Store} {path : String} {root : List String} {held : Files.Node}
    (finds : store.find path = .ok (root, held)) (isDirectory : held.isDirectory = true)
    (registry : Registry) (limits : Limits) :
    scan store registry limits path =
      (.ok (scanAt store.root root registry limits).1,
        (scanAt store.root root registry limits).2) := by
  rw [scan, finds]
  exact if_pos isDirectory

/-- A scan of a directory of a well-formed tree gives an account of every file that it may take:
each of the first files in the order of the walk, up to the limit, either has the extraction of
its text under its own key or counts as skipped. -/
theorem scan_accounts {store : Files.Store} {registry : Registry} {limits : Limits}
    {path : String} {root : List String} {held : Files.Node}
    (wellFormed : store.root.WellFormed) (finds : store.find path = .ok (root, held))
    (isDirectory : held.isDirectory = true) :
    ∃ result events, scan store registry limits path = (.ok result, events) ∧
      Accounts root registry limits (walk limits.reach store.root root) result events :=
  ⟨_, _, scan_eq finds isDirectory registry limits,
    accounts_scanAt wellFormed (Files.Store.at?_of_find finds) isDirectory registry limits⟩

/-- Three small sources below a directory, of which the first cannot be opened. -/
def threeSources : Files.Node :=
  ((Files.Node.emptyDirectory.put ["work", "a.py"]
    (.file ⟨"import io".toUTF8, some Files.noPermission⟩)).put ["work", "b.py"]
    (.file "import os".toUTF8)).put ["work", "c.py"] (.file "import re".toUTF8)

theorem find_threeSources :
    Files.Store.find ⟨threeSources, []⟩ "/work" = .ok (["work"], .directory
      [("a.py", .file ⟨"import io".toUTF8, some Files.noPermission⟩),
        ("b.py", .file "import os".toUTF8), ("c.py", .file "import re".toUTF8)]) :=
  Files.Store.find_of_follow (by decide) (by decide) (by decide) rfl rfl

/-- The account of a scan that may take two of the three and skips the first. -/
theorem scan_accounts_two_of_three :
    let limits : Limits := ⟨⟨20, false⟩, 2, 50⟩
    ∃ result events,
      scan ⟨threeSources, []⟩ .defaults limits "/work" = (.ok result, events) ∧
      Accounts ["work"] .defaults limits (walk limits.reach threeSources ["work"]) result events ∧
      result.filesScanned = 2 ∧ result.skipped = 1 ∧ result.files.map Prod.fst = ["b.py"] := by
  intro limits
  have wellFormed : threeSources.WellFormed :=
    ((Files.Node.wellFormed_emptyDirectory.put (by decide +kernel) (.file _)).put
      (by decide +kernel) (.file _)).put (by decide +kernel) (.file _)
  obtain ⟨result, events, run, accounts⟩ :=
    @scan_accounts ⟨threeSources, []⟩ .defaults limits _ _ _ wellFormed find_threeSources rfl
  have same : (scanAt threeSources ["work"] .defaults limits).1 = result :=
    Except.ok.inj (Prod.mk.inj ((scan_eq find_threeSources rfl _ _).symm.trans run)).1
  refine ⟨result, events, run, accounts, ?_⟩
  rw [← same]
  decide +kernel

/-- A file that is small enough and has the bytes of a text counts as skipped when the system
refuses to open it. -/
theorem closed_text_is_skipped :
    let found := scanAt threeSources ["work"] .defaults .usual
    let taken := (eligible .defaults (walk Limits.usual.reach threeSources ["work"])).take
      found.1.filesScanned
    scan ⟨threeSources, []⟩ .defaults .usual "/work" = (.ok found.1, found.2) ∧
      (∀ file ∈ taken, ¬ Limits.usual.maxFileSize < file.contents.size ∧
        file.contents.held.IsValidUTF8) ∧
      found.1.skipped = 1 ∧
      ∃ file ∈ taken, file.key ["work"] = "a.py" ∧ "a.py" ∉ found.1.files.map Prod.fst := by
  intro found taken
  exact ⟨scan_eq find_threeSources rfl _ _, by decide +kernel, by decide +kernel,
    by decide +kernel⟩

end LibraryScout.Scan
