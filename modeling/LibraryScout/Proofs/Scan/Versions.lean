import LibraryScout.Proofs.Files.Versions
import LibraryScout.Proofs.Scan.Accounting
import LibraryScout.Proofs.Scan.Reached
import Mathlib.Data.List.Induction

/-!
Contract: walks over two versions of a tree that differ in one file.

Owns:
- that the contents of a file that holds no rules have no say in which entries are passed over;
- that a scan takes note of the same things in both versions, in the same order.

Does not own: what a scan makes of the files.
-/

namespace LibraryScout.Scan

open LibraryScout.Files LibraryScout.Source

/-- A path to a file that is no ignore file. -/
def HoldsNoRules (place : List String) : Prop :=
  ∀ name ∈ place.getLast?, name ≠ ".ignore" ∧ name ≠ ".gitignore"

instance (place : List String) : Decidable (HoldsNoRules place) :=
  inferInstanceAs (Decidable (∀ _ ∈ _, _))

/-! ## The walk -/

theorem held?_eq_some_iff {entries : Entries} {name : String} {held : ByteArray} :
    Ignore.Level.held? entries name = some held ↔ entries.get? name = some (.file held) := by
  rw [Ignore.Level.held?]
  split
  next same => simp [same]
  next other => exact ⟨nofun, fun same => absurd same (other held)⟩

section

variable {place : List String} {first second : Node}

/-- Rules are read from the same files in both versions. -/
theorem held?_eq (differ : first.DifferAt place second) {path : List String} {name : String}
    (elsewhere : path ++ [name] ≠ place) {held other : Node} (leads : first.at? path = some held)
    (leadsToo : second.at? path = some other) :
    Ignore.Level.held? other.entries name = Ignore.Level.held? held.entries name := by
  refine Option.ext fun bytes => ?_
  have sameFile := differ.files _ elsewhere (bytes : Contents)
  rw [Node.at?_concat leads, Node.at?_concat leadsToo] at sameFile
  rw [held?_eq_some_iff, held?_eq_some_iff, sameFile]

variable (differ : first.DifferAt place second) (noRules : HoldsNoRules place)

include differ noRules

theorem heldRules_eq {path : List String} {name : String}
    (isRules : name = Ignore.Level.generalFile ∨ name = Ignore.Level.versionedFile)
    {held other : Node} (leads : first.at? path = some held)
    (leadsToo : second.at? path = some other) :
    Ignore.Level.held? other.entries name = Ignore.Level.held? held.entries name := by
  refine held?_eq differ ?_ leads leadsToo
  rintro rfl
  obtain ⟨notGeneral, notVersioned⟩ := noRules name (by simp)
  exact isRules.elim notGeneral notVersioned

theorem ofEntries_eq {path : List String} (depth : Nat) {held other : Node}
    (leads : first.at? path = some held) (leadsToo : second.at? path = some other) :
    Ignore.Level.ofEntries depth other.entries = Ignore.Level.ofEntries depth held.entries := by
  rw [Ignore.Level.ofEntries, Ignore.Level.ofEntries, Ignore.Level.rulesOf, Ignore.Level.rulesOf,
    heldRules_eq differ noRules (Or.inl rfl) leads leadsToo,
    heldRules_eq differ noRules (Or.inr rfl) leads leadsToo]
  rfl

/-- In both versions there are the same complaints about ignore files. -/
theorem complaints_eq {path : List String} {held other : Node}
    (leads : first.at? path = some held) (leadsToo : second.at? path = some other) :
    Ignore.Level.complaints path other.entries = Ignore.Level.complaints path held.entries := by
  rw [Ignore.Level.complaints, Ignore.Level.complaints, Ignore.Level.complaintsOf,
    Ignore.Level.complaintsOf, heldRules_eq differ noRules (Or.inl rfl) leads leadsToo,
    heldRules_eq differ noRules (Or.inr rfl) leads leadsToo]
  rfl

theorem rulesAbove_eq (root : List String) : rulesAbove second root = rulesAbove first root := by
  have same : Ignore.Levels.complaintsAbove second root =
      Ignore.Levels.complaintsAbove first root := by
    rw [Ignore.Levels.complaintsAbove, Ignore.Levels.complaintsAbove]
    refine List.flatMap_congr fun depth _ => ?_
    dsimp only
    cases held : first.at? (root.take depth) with
    | none => rw [differ.at?_eq_none held]
    | some node =>
        obtain ⟨other, there, -⟩ := differ.present held
        rw [there, Option.map_some, Option.map_some, complaints_eq differ noRules held there]
  rw [rulesAbove, same, rulesAbove]

/-- On the way to an entry both versions have the same rules. -/
theorem along_eq {path : List String} {held : Node} (leads : first.at? path = some held) :
    Ignore.Levels.along second 0 [] path = Ignore.Levels.along first 0 [] path := by
  induction path using List.reverseRecOn generalizing held with
  | nil =>
      have atTop (node : Node) : node.at? [] = some node := rfl
      rw [Ignore.Levels.along, Ignore.Levels.along,
        ofEntries_eq differ noRules 0 (atTop first) (atTop second)]
  | append_singleton path name inductionHypothesis =>
      obtain ⟨upper, above⟩ := Node.exists_at?_of_append leads
      obtain ⟨other, leadsToo, -⟩ := differ.present leads
      rw [along_concat 0 [] leadsToo, along_concat 0 [] leads,
        ofEntries_eq differ noRules _ leads leadsToo, inductionHypothesis above]

theorem verdictAt?_eq (above : List String) (name : String) :
    verdictAt? second above name = verdictAt? first above name := by
  rw [verdictAt?, verdictAt?]
  cases held : first.at? (above ++ [name]) with
  | none => rw [differ.at?_eq_none held, Option.bind_none, Option.bind_none]
  | some node =>
      obtain ⟨other, there, sameKind⟩ := differ.present held
      obtain ⟨upper, leads⟩ := Node.exists_at?_of_append held
      rw [there, Option.bind_some, Option.bind_some, along_eq differ noRules leads, sameKind]

theorem open_iff {reach : Reach} {root names : List String} :
    Open reach second root names ↔ Open reach first root names := by
  simp only [Open, PassedAt, verdictAt?_eq differ noRules]

end

/-! ## What a scan takes note of -/

/-- A file of one version in the other one, in which the file at a place has other contents. -/
def Eligible.revised (place : List String) (contents : Contents) (file : Eligible) : Eligible :=
  if file.path = place then { file with contents } else file

/-- What is noted of one version, in the other one. -/
def Noted.revised (place : List String) (contents : Contents) : Noted → Noted :=
  Except.map (Eligible.revised place contents)

section

variable {place : List String} {contents : Contents} {file : Eligible}

@[simp] theorem path_revised : (file.revised place contents).path = file.path := by
  rw [Eligible.revised]
  split <;> rfl

@[simp] theorem path_noted_revised (item : Noted) :
    (item.revised place contents).path = item.path := by
  cases item with
  | ok file => exact path_revised
  | error hindrance => rfl

theorem revised_of_ne (elsewhere : file.path ≠ place) : file.revised place contents = file :=
  if_neg elsewhere

theorem revised_of_eq (here : file.path = place) :
    file.revised place contents = { file with contents } :=
  if_pos here

theorem revised_revised (earlier : Contents) :
    (file.revised place earlier).revised place contents = file.revised place contents := by
  by_cases here : file.path = place
  · rw [revised_of_eq here, revised_of_eq here]
    exact revised_of_eq here
  · rw [revised_of_ne here]

/-- A file that has the contents already is what it was. -/
theorem revised_self (same : file.path = place → file.contents = contents) :
    file.revised place contents = file := by
  by_cases here : file.path = place
  · rw [revised_of_eq here, ← same here]
  · exact revised_of_ne here

/-- Where the file is not noted, nothing changes. -/
theorem map_revised_of_ne {items : List Noted}
    (elsewhere : ∀ file ∈ filesOf items, file.path ≠ place) :
    items.map (Noted.revised place contents) = items := by
  refine (List.map_congr_left fun item member => ?_).trans (List.map_id' items)
  cases item with
  | error hindrance => rfl
  | ok file => exact congrArg Except.ok (revised_of_ne (elsewhere file (mem_filesOf_iff.2 member)))

theorem length_filesOf_map_revised (items : List Noted) :
    (filesOf (items.map (Noted.revised place contents))).length = (filesOf items).length := by
  induction items with
  | nil => rfl
  | cons item later inductionHypothesis =>
      cases item with
      | error hindrance => exact inductionHypothesis
      | ok file => exact congrArg (· + 1) inductionHypothesis

/-- Among things with files in the order of their paths there is one file at a place at most. -/
theorem map_revised {before after : List Noted}
    (inOrder : (filesOf (before ++ .ok file :: after)).Pairwise fun first second =>
      first.path < second.path) :
    (before ++ .ok file :: after).map (Noted.revised file.path contents) =
      before ++ .ok { file with contents } :: after := by
  rw [filesOf_append, filesOf_cons_ok] at inOrder
  obtain ⟨-, ordered, across⟩ := List.pairwise_append.1 inOrder
  rw [List.map_append, List.map_cons, map_revised_of_ne, map_revised_of_ne]
  · exact congrArg (fun own => before ++ Except.ok own :: after) (revised_of_eq rfl)
  · intro other isLater same
    exact List.lt_irrefl _ (same ▸ List.rel_of_pairwise_cons ordered isLater)
  · intro other isEarlier same
    exact List.lt_irrefl _ (same ▸ across other isEarlier file List.mem_cons_self)

/-- Other contents leave as much room. -/
theorem within_map_revised (room : Nat) (items : List Noted) :
    within room (items.map (Noted.revised place contents)) =
      (within room items).map (Noted.revised place contents) := by
  induction items generalizing room with
  | nil => simp [within]
  | cons item later inductionHypothesis =>
      cases item with
      | error hindrance => exact congrArg (_ :: ·) (inductionHypothesis room)
      | ok file =>
          cases room with
          | zero => rfl
          | succ fewer => exact congrArg (_ :: ·) (inductionHypothesis fewer)

end

/-- Things in the strict order of their places are given by what is among them. -/
theorem eq_of_inOrder {items others : List Noted} (inOrder : InOrder items)
    (othersInOrder : InOrder others) (same : ∀ item, item ∈ items ↔ item ∈ others) :
    items = others := by
  have apart {first second : Noted} (before : first.path < second.path) : first ≠ second := by
    rintro rfl
    exact List.lt_irrefl _ before
  have perm := (List.perm_ext_iff_of_nodup (inOrder.imp apart) (othersInOrder.imp apart)).2 same
  refine perm.eq_of_pairwise ?_ inOrder othersInOrder
  intro first second _ _ before after
  exact absurd (List.lt_trans before after) (List.lt_irrefl _)

/-- Two versions of a tree with a directory to scan, which differ in what one file holds. -/
structure Versions (root place : List String) (contents contentsToo : Contents)
    (first second : Node) : Prop where
  wellFormed : first.WellFormed
  wellFormedToo : second.WellFormed
  differ : first.DifferAt place second
  noRules : HoldsNoRules place
  leads : ∃ held, first.at? root = some held ∧ held.isDirectory = true
  holds : first.at? place = some (.file contents)
  holdsToo : second.at? place = some (.file contentsToo)

namespace Versions

variable {root place : List String} {contents contentsToo : Contents} {first second : Node}
  {registry : Registry} {reach : Reach}
  (versions : Versions root place contents contentsToo first second)

include versions

theorem symm : Versions root place contentsToo contents second first := by
  obtain ⟨held, leads, isDirectory⟩ := versions.leads
  obtain ⟨other, leadsToo, sameKind⟩ := versions.differ.present leads
  exact ⟨versions.wellFormedToo, versions.wellFormed, versions.differ.symm, versions.noRules,
    ⟨other, leadsToo, sameKind.trans isDirectory⟩, versions.holdsToo, versions.holds⟩

theorem inOrder : (eligible registry (walk reach first root)).Pairwise fun first second =>
    first.path < second.path := by
  obtain ⟨held, leads, _⟩ := versions.leads
  exact eligible_inOrder versions.wellFormed leads reach registry

/-- What the scan of the one version takes note of, the scan of the other takes note of as it is
there. -/
theorem revised_mem_noted {item : Noted}
    (member : item ∈ noted registry (descend reach first root)) :
    item.revised place contentsToo ∈ noted registry (descend reach second root) := by
  obtain ⟨held, leads, _⟩ := versions.leads
  obtain ⟨other, leadsToo, _⟩ := versions.symm.leads
  have sameWay {names : List String} : Open reach second root names ↔ Open reach first root names :=
    open_iff versions.differ versions.noRules
  cases item with
  | error hindrance =>
      obtain ⟨path, refusal, rfl, stands, names, way, short, isOpen⟩ :=
        (error_mem_descend_iff versions.wellFormed leads).1 (error_mem_noted_iff.1 member)
      exact error_mem_noted_iff.2 ((error_mem_descend_iff versions.wellFormedToo leadsToo).2
        ⟨path, refusal, rfl, (versions.differ.closed path refusal).1 stands, names, way, short,
          sameWay.2 isOpen⟩)
  | ok file =>
      rw [ok_mem_noted_iff, ← eligible_walk, mem_eligible_iff versions.wellFormed leads] at member
      obtain ⟨stands, registered, names, way, short, isOpen⟩ := member
      change (Except.ok (file.revised place contentsToo) : Noted) ∈ _
      rw [ok_mem_noted_iff, ← eligible_walk]
      by_cases here : file.path = place
      · rw [revised_of_eq here]
        exact (mem_eligible_iff versions.wellFormedToo leadsToo).2
          ⟨here ▸ versions.holdsToo, registered, names, way, short, sameWay.2 isOpen⟩
      · rw [revised_of_ne here]
        exact (mem_eligible_iff versions.wellFormedToo leadsToo).2
          ⟨(versions.differ.files _ here _).1 stands, registered, names, way, short,
            sameWay.2 isOpen⟩

theorem noted_descend_revised :
    noted registry (descend reach second root) =
      (noted registry (descend reach first root)).map (Noted.revised place contentsToo) := by
  obtain ⟨held, leads, _⟩ := versions.leads
  obtain ⟨other, leadsToo, _⟩ := versions.symm.leads
  refine eq_of_inOrder (noted_descend_inOrder versions.wellFormedToo leadsToo reach registry) ?_ ?_
  · rw [InOrder, List.pairwise_map]
    simp only [path_noted_revised]
    exact noted_descend_inOrder versions.wellFormed leads reach registry
  intro item
  rw [List.mem_map]
  constructor
  · intro member
    refine ⟨item.revised place contents, versions.symm.revised_mem_noted member, ?_⟩
    cases item with
    | error hindrance => rfl
    | ok file =>
        refine congrArg Except.ok ?_
        rw [revised_revised, revised_self]
        intro here
        rw [ok_mem_noted_iff, ← eligible_walk, mem_eligible_iff versions.wellFormedToo leadsToo,
          here, versions.holdsToo] at member
        exact (Node.file.inj (Option.some.inj member.1)).symm
  · rintro ⟨earlier, member, rfl⟩
    exact versions.revised_mem_noted member

/-- The scans of two versions take note of the same things, in the same order, but for the contents
of the one file. -/
theorem noted_revised :
    noted registry (walk reach second root) =
      (noted registry (walk reach first root)).map (Noted.revised place contentsToo) := by
  have noFiles : ∀ file ∈ filesOf (noted registry (rulesAbove first root)), file.path ≠ place := by
    rw [filesOf_noted_rulesAbove]
    exact fun _ member => absurd member List.not_mem_nil
  rw [noted_walk, noted_walk, List.map_append, map_revised_of_ne noFiles,
    versions.noted_descend_revised, rulesAbove_eq versions.differ versions.noRules]

end Versions

end LibraryScout.Scan
