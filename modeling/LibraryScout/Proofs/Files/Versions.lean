import LibraryScout.Proofs.Files.Writing

/-!
Contract: versions of a tree that differ in one file.

Owns:
- `Node.DifferAt`, two trees with the same files and directories, in which all files but one hold
  the same;
- that putting new contents into a file makes such a version;
- that both have something at the same places, and that paths lead to the same places in both.

Does not own: what else follows from the contents of files.
-/

namespace LibraryScout.Files

namespace Node

/-- Two trees that differ in what one file holds, and in nothing else. -/
structure DifferAt (place : List String) (first second : Node) : Prop where
  held : ∃ contents, first.at? place = some (.file contents)
  heldToo : ∃ contents, second.at? place = some (.file contents)
  files : ∀ names, names ≠ place → ∀ contents,
    first.at? names = some (.file contents) ↔ second.at? names = some (.file contents)
  directories : ∀ names, (∃ entries, first.at? names = some (.directory entries)) ↔
    ∃ entries, second.at? names = some (.directory entries)
  closed : ∀ names refusal, first.at? names = some (.closedDirectory refusal) ↔
    second.at? names = some (.closedDirectory refusal)

/-! ## New contents -/

theorem differAt_nil (first second : Contents) : DifferAt [] (.file first) (.file second) := by
  have nothingBelow : ∀ (contents : Contents) {names : List String}, names ≠ [] →
      (Node.file contents).at? names = none := by
    intro contents names someNames
    obtain ⟨name, later, rfl⟩ := List.exists_cons_of_ne_nil someNames
    rfl
  refine ⟨⟨first, rfl⟩, ⟨second, rfl⟩, ?_, ?_, ?_⟩
  · intro names elsewhere contents
    rw [nothingBelow first elsewhere, nothingBelow second elsewhere]
  · intro names
    cases names with
    | nil => simp [at?]
    | cons name later => rw [nothingBelow first (by simp), nothingBelow second (by simp)]
  · intro names refusal
    cases names with
    | nil => simp [at?]
    | cons name later => rw [nothingBelow first (by simp), nothingBelow second (by simp)]

/-- Two versions of an entry make two versions of the directory. -/
theorem DifferAt.below {node inner other : Node} {name : String} {place : List String}
    (differ : DifferAt place inner other) (present : node.entries.get? name = some inner) :
    DifferAt (name :: place) node (.directory (node.entries.insert name other)) := by
  obtain ⟨entries, rfl⟩ := exists_of_get? present
  have first (names : List String) :
      (Node.directory entries).at? (name :: names) = inner.at? names := by
    rw [at?_cons, present, Option.bind_some]
  have second (names : List String) :
      (Node.directory (Entries.insert entries name other)).at? (name :: names) =
        other.at? names := by
    rw [at?_cons, Node.entries, Entries.get?_insert, if_pos rfl, Option.bind_some]
  have beside (next : String) (apart : next ≠ name) (names : List String) :
      (Node.directory (Entries.insert entries name other)).at? (next :: names) =
        (Node.directory entries).at? (next :: names) := by
    rw [at?_cons, at?_cons, Node.entries, Entries.get?_insert, if_neg apart, Node.entries]
  rw [Node.entries]
  refine ⟨?_, ?_, ?_, ?_, ?_⟩
  · rw [first]
    exact differ.held
  · rw [second]
    exact differ.heldToo
  · intro names elsewhere contents
    cases names with
    | nil => simp [at?]
    | cons next later =>
        by_cases same : next = name
        · subst same
          rw [first, second]
          exact differ.files later (fun here => elsewhere (by rw [here])) contents
        · rw [beside next same]
  · intro names
    cases names with
    | nil => simp [at?]
    | cons next later =>
        by_cases same : next = name
        · subst same
          rw [first, second]
          exact differ.directories later
        · rw [beside next same]
  · intro names refusal
    cases names with
    | nil => simp [at?]
    | cons next later =>
        by_cases same : next = name
        · subst same
          rw [first, second]
          exact differ.closed later refusal
        · rw [beside next same]

/-- New contents for a file make a version that differs there. -/
theorem differAt_put {node : Node} {place : List String} {contents : Contents}
    (stands : node.at? place = some (.file contents)) (new : Contents) :
    DifferAt place node (node.put place (.file new)) := by
  induction place generalizing node with
  | nil =>
      obtain rfl := Option.some.inj stands
      exact differAt_nil contents new
  | cons name later inductionHypothesis =>
      rw [at?_cons] at stands
      obtain ⟨inner, present, standsBelow⟩ := Option.bind_eq_some_iff.1 stands
      have differ := (inductionHypothesis standsBelow).below present
      rw [put, present, Option.getD_some]
      exact differ

/-! ## What both trees have -/

namespace DifferAt

variable {place : List String} {first second : Node}

theorem symm (differ : DifferAt place first second) : DifferAt place second first :=
  ⟨differ.heldToo, differ.held,
    fun names elsewhere contents => (differ.files names elsewhere contents).symm,
    fun names => (differ.directories names).symm, fun names refusal =>
      (differ.closed names refusal).symm⟩

theorem directory (differ : DifferAt place first second) {names : List String} {held : Node}
    (stands : first.at? names = some held) (isDirectory : held.isDirectory = true) :
    ∃ now, second.at? names = some now ∧ held.Stays now := by
  cases held with
  | file contents => cases isDirectory
  | directory entries =>
      obtain ⟨others, standsToo⟩ := (differ.directories names).1 ⟨entries, stands⟩
      exact ⟨_, standsToo, .inr ⟨⟨entries, rfl⟩, others, rfl⟩⟩
  | closedDirectory refusal => exact ⟨_, (differ.closed names refusal).1 stands, .inl rfl⟩

theorem present (differ : DifferAt place first second) {names : List String} {held : Node}
    (stands : first.at? names = some held) :
    ∃ now, second.at? names = some now ∧ now.isDirectory = held.isDirectory := by
  cases held with
  | directory | closedDirectory =>
      obtain ⟨now, standsToo, stays⟩ := differ.directory stands rfl
      exact ⟨now, standsToo, stays.isDirectory_eq⟩
  | file contents =>
      by_cases here : names = place
      · obtain ⟨other, standsToo⟩ := differ.heldToo
        exact ⟨.file other, by rw [here, standsToo], rfl⟩
      · exact ⟨_, (differ.files names here contents).1 stands, rfl⟩

theorem at?_eq_none (differ : DifferAt place first second) {names : List String}
    (nothing : first.at? names = none) : second.at? names = none := by
  cases stands : second.at? names with
  | none => rfl
  | some held =>
      obtain ⟨other, there, -⟩ := differ.symm.present stands
      cases nothing.symm.trans there

/-- A store with the other tree keeps all but the file. -/
theorem keeps {store : Store} {other : Node} (differ : DifferAt place store.root other) :
    Store.Keeps (· = place) store { store with root := other } := by
  refine ⟨rfl, ?_, ?_⟩
  · intro names held stands
    cases kind : held.isDirectory with
    | false =>
        obtain ⟨now, standsToo, -⟩ := differ.present stands
        exact ⟨now, standsToo, nofun⟩
    | true =>
        obtain ⟨now, standsToo, stays⟩ := differ.directory stands kind
        exact ⟨now, standsToo, fun _ => stays⟩
  · exact fun names contents elsewhere stands => (differ.files names elsewhere contents).1 stands

end DifferAt

end Node

namespace Store

/-- A path to a directory of the one tree leads to the same place of the other. -/
theorem exists_find_of_differAt {store : Store} {other : Node} {place : List String}
    (differ : store.root.DifferAt place other) {path : String} {root : List String} {held : Node}
    (finds : store.find path = .ok (root, held)) (isDirectory : held.isDirectory = true) :
    ∃ now, { store with root := other }.find path = .ok (root, now) ∧ held.Stays now := by
  obtain ⟨resolves, leads⟩ := find_eq_ok_iff.1 finds
  obtain ⟨now, leadsToo, stays⟩ := differ.directory leads isDirectory
  exact ⟨now, find_eq_ok_iff.2 ⟨differ.keeps.resolve resolves, leadsToo⟩, stays⟩

end Store

end LibraryScout.Files
