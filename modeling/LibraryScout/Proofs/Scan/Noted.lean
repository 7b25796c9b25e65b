import LibraryScout.Proofs.Scan.Eligible

/-!
Contract: what of a walk a scan takes note of, in order.

Owns:
- `noted`, the hindrances that a walk meets and the files that the scan may take;
- that these stand at places in the strict order of their paths, names compared one by one, so no
  place is noted twice;
- that the files stand strictly below the scanned directory and that their keys differ.

Does not own: how many of the files a scan takes.
-/

namespace LibraryScout.Scan

open LibraryScout.Source

/-! ## Hindrances and files -/

/-- What a scan takes note of: a hindrance, or a file that it may take. -/
abbrev Noted :=
  Except Hindrance Eligible

namespace Noted

/-- What there is to note about an item of a walk. -/
def of? (registry : Registry) (item : Item) : Option Noted :=
  match item with
  | .error hindrance => some (.error hindrance)
  | .ok _ => (Eligible.of? registry item).map .ok

/-- Where what is noted stands; complaints about ignore files come before all places. -/
def path : Noted → List String
  | .ok file => file.path
  | .error (.unlisted path _) => path
  | .error (.badRules _) => []

/-- What is reported about it. -/
def reports (maxFileSize : Nat) : Noted → List Log.Event
  | .ok file => file.reports maxFileSize
  | .error hindrance => [hindered hindrance]

theorem of?_eq_error_iff {registry : Registry} {item : Item} {hindrance : Hindrance} :
    of? registry item = some (.error hindrance) ↔ item = .error hindrance := by
  cases item with
  | error other => simp [of?]
  | ok found => simp [of?]

end Noted

/-- What a scan takes note of, in the order in which the walk meets it. -/
def noted (registry : Registry) (walked : List Item) : List Noted :=
  walked.filterMap (Noted.of? registry)

/-- The files among what a scan takes note of. -/
def filesOf (items : List Noted) : List Eligible :=
  items.filterMap Except.toOption

@[simp] theorem filesOf_nil : filesOf [] = [] := rfl

@[simp] theorem filesOf_cons_ok (file : Eligible) (later : List Noted) :
    filesOf (.ok file :: later) = file :: filesOf later := rfl

@[simp] theorem filesOf_cons_error (hindrance : Hindrance) (later : List Noted) :
    filesOf (.error hindrance :: later) = filesOf later := rfl

@[simp] theorem filesOf_append (before after : List Noted) :
    filesOf (before ++ after) = filesOf before ++ filesOf after :=
  List.filterMap_append

theorem mem_filesOf_iff {items : List Noted} {file : Eligible} :
    file ∈ filesOf items ↔ .ok file ∈ items := by
  rw [filesOf, List.mem_filterMap]
  constructor
  · rintro ⟨item, member, isFile⟩
    cases item with
    | error hindrance => cases isFile
    | ok other => exact Option.some.inj isFile ▸ member
  · exact fun member => ⟨.ok file, member, rfl⟩

theorem filesOf_noted (registry : Registry) (walked : List Item) :
    filesOf (noted registry walked) = eligible registry walked := by
  rw [filesOf, noted, List.filterMap_filterMap, eligible]
  refine List.filterMap_congr fun item _ => ?_
  cases item with
  | error hindrance => rfl
  | ok found =>
      rw [Noted.of?]
      cases Eligible.of? registry (.ok found) <;> rfl

theorem noted_append (registry : Registry) (first second : List Item) :
    noted registry (first ++ second) = noted registry first ++ noted registry second :=
  List.filterMap_append

theorem noted_cons_of_none {registry : Registry} {item : Item}
    (passed : Noted.of? registry item = none) (later : List Item) :
    noted registry (item :: later) = noted registry later :=
  List.filterMap_cons_none passed

theorem noted_cons_of_some {registry : Registry} {item : Item} {found : Noted}
    (isNoted : Noted.of? registry item = some found) (later : List Item) :
    noted registry (item :: later) = found :: noted registry later :=
  List.filterMap_cons_some isNoted

/-- A file is noted when it is one that the scan may take. -/
theorem ok_mem_noted_iff {registry : Registry} {walked : List Item} {file : Eligible} :
    .ok file ∈ noted registry walked ↔ file ∈ eligible registry walked := by
  rw [← filesOf_noted, mem_filesOf_iff]

/-- Every hindrance is noted. -/
theorem error_mem_noted_iff {registry : Registry} {walked : List Item} {hindrance : Hindrance} :
    .error hindrance ∈ noted registry walked ↔ .error hindrance ∈ walked := by
  simp only [noted, List.mem_filterMap, Noted.of?_eq_error_iff, exists_eq_right]

/-! ## Places -/

section

variable {reach : Reach} {registry : Registry}

/-- At most one thing is noted at a node: a file that the scan may take, or a directory that is not
listed. -/
theorem noted_metAt_cases (registry : Registry) (path : List String) (steps : Nat)
    (node : Files.Node) :
    noted registry (metAt path steps node) = [] ∨
      ∃ item : Noted, noted registry (metAt path steps node) = [item] ∧ item.path = path := by
  cases node with
  | file contents =>
      cases registered : registry.forFile? (path.getLast?.getD "") with
      | none => simp [noted, metAt, Noted.of?, Eligible.of?, Found.name, registered]
      | some extractor =>
          exact .inr ⟨.ok ⟨path, contents, extractor⟩,
            by simp [noted, metAt, Noted.of?, Eligible.of?, Found.name, registered], rfl⟩
  | directory entries => exact .inl rfl
  | closedDirectory refusal =>
      cases steps with
      | zero => exact .inl rfl
      | succ fewer => exact .inr ⟨.error (.unlisted path refusal), rfl, rfl⟩

/-- What is noted about something that is met at a node stands where the node stands. -/
theorem Noted.path_eq {path : List String} {steps : Nat} {node : Files.Node} {met : Item}
    {item : Noted} (metHere : met ∈ metAt path steps node)
    (isNoted : Noted.of? registry met = some item) : item.path = path := by
  have member : item ∈ noted registry (metAt path steps node) :=
    List.mem_filterMap.2 ⟨met, metHere, isNoted⟩
  rcases noted_metAt_cases registry path steps node with nothing | ⟨only, one, here⟩
  · rw [nothing] at member
    exact absurd member List.not_mem_nil
  · rw [one, List.mem_singleton] at member
    exact member ▸ here

/-- Things in the strict order of their places. -/
def InOrder (items : List Noted) : Prop :=
  items.Pairwise fun first second => first.path < second.path

theorem lt_append_of_ne_nil (path : List String) {names : List String} (someNames : names ≠ []) :
    path < path ++ names := by
  obtain ⟨name, later, rfl⟩ := List.exists_cons_of_ne_nil someNames
  have strictly : path ++ [] < path ++ name :: later :=
    List.append_left_lt (List.nil_lt_cons name later)
  rwa [List.append_nil] at strictly

/-- What is noted at a node comes before what is noted below it. -/
theorem noted_node_inOrder {levels : Ignore.Levels} {path : List String} {steps : Nat}
    {node : Files.Node} (wellFormed : node.WellFormed)
    (inOrder : InOrder (noted registry (walkEntries reach levels path steps node.entries))) :
    InOrder (noted registry
      (metAt path steps node ++ walkEntries reach levels path steps node.entries)) := by
  rw [noted_append, InOrder, List.pairwise_append]
  refine ⟨?_, inOrder, ?_⟩
  · rcases noted_metAt_cases registry path steps node with nothing | ⟨only, one, _⟩
    · rw [nothing]
      exact List.Pairwise.nil
    · rw [one]
      exact List.pairwise_singleton _ _
  · intro first isFirst second isSecond
    obtain ⟨_, metHere, firstNoted⟩ := List.mem_filterMap.1 isFirst
    obtain ⟨_, met, secondNoted⟩ := List.mem_filterMap.1 isSecond
    obtain ⟨names, _, _, someNames, _, _, metBelow⟩ := below_of_mem_walkEntries wellFormed met
    rw [Noted.path_eq metHere firstNoted, Noted.path_eq metBelow secondNoted]
    exact lt_append_of_ne_nil path someNames

theorem noted_walkEntries_inOrder (levels : Ignore.Levels) (path : List String) (steps : Nat)
    {node : Files.Node} (wellFormed : node.WellFormed) :
    InOrder (noted registry (walkEntries reach levels path steps node.entries)) := by
  induction steps generalizing levels path node with
  | zero =>
      rw [walkEntries_zero]
      exact List.Pairwise.nil
  | succ fewer inductionHypothesis =>
      rw [walkEntries_succ, noted, List.filterMap_flatMap, InOrder, List.pairwise_flatMap]
      constructor
      · intro entry held
        rw [walkEntry]
        split
        · exact List.Pairwise.nil
        · rw [walkNode_eq]
          have innerWellFormed := wellFormed.inner held
          exact noted_node_inOrder innerWellFormed (inductionHypothesis _ _ innerWellFormed)
      · -- what is noted at two entries is in the order of their names
        refine wellFormed.ordered.imp_of_mem ?_
        intro first second firstHeld secondHeld below firstItem isFirst secondItem isSecond
        obtain ⟨_, firstMet, firstNoted⟩ := List.mem_filterMap.1 isFirst
        obtain ⟨_, secondMet, secondNoted⟩ := List.mem_filterMap.1 isSecond
        obtain ⟨firstNames, _, _, _, _, firstHere⟩ :=
          below_of_mem_walkEntry (wellFormed.inner firstHeld) firstMet
        obtain ⟨secondNames, _, _, _, _, secondHere⟩ :=
          below_of_mem_walkEntry (wellFormed.inner secondHeld) secondMet
        rw [Noted.path_eq firstHere firstNoted, Noted.path_eq secondHere secondNoted]
        exact List.append_left_lt (List.cons_lt_cons_iff.2 (Or.inl below))

end

/-! ## One walk -/

section

variable {node held : Files.Node} {root : List String}

/-- What is noted at and below a node stands at places in strict order. -/
theorem noted_descend_inOrder (wellFormed : node.WellFormed) (leads : node.at? root = some held)
    (reach : Reach) (registry : Registry) :
    InOrder (noted registry (descend reach node root)) := by
  have heldWellFormed := wellFormed.at? leads
  rw [descend_eq leads]
  exact noted_node_inOrder heldWellFormed (noted_walkEntries_inOrder _ root _ heldWellFormed)

/-- Complaints about ignore files come first, and no file is among them. -/
theorem noted_walk (registry : Registry) (reach : Reach) (node : Files.Node)
    (root : List String) :
    noted registry (walk reach node root) =
      noted registry (rulesAbove node root) ++ noted registry (descend reach node root) :=
  noted_append registry _ _

theorem filesOf_noted_rulesAbove (registry : Registry) (node : Files.Node) (root : List String) :
    filesOf (noted registry (rulesAbove node root)) = [] := by
  rw [rulesAbove]
  split <;> rfl

theorem eligible_walk (registry : Registry) (reach : Reach) (node : Files.Node)
    (root : List String) :
    eligible registry (walk reach node root) = eligible registry (descend reach node root) := by
  rw [← filesOf_noted, noted_walk, filesOf_append, filesOf_noted_rulesAbove, filesOf_noted,
    List.nil_append]

/-- The files that a scan may take are in the strict order of their paths. -/
theorem eligible_inOrder (wellFormed : node.WellFormed) (leads : node.at? root = some held)
    (reach : Reach) (registry : Registry) :
    (eligible registry (walk reach node root)).Pairwise fun first second =>
      first.path < second.path := by
  rw [eligible_walk, ← filesOf_noted, filesOf, List.pairwise_filterMap]
  refine (noted_descend_inOrder wellFormed leads reach registry).imp ?_
  intro first second before firstFile isFirst secondFile isSecond
  cases first with
  | error hindrance => cases isFirst
  | ok file =>
      cases second with
      | error hindrance => cases isSecond
      | ok other =>
          obtain rfl := Option.some.inj isFirst
          obtain rfl := Option.some.inj isSecond
          exact before

/-- A file that a scan may take stands strictly below the scanned directory. -/
theorem below_of_mem_eligible (wellFormed : node.WellFormed) (leads : node.at? root = some held)
    (isDirectory : held.isDirectory = true) {reach : Reach} {registry : Registry}
    {file : Eligible} (member : file ∈ eligible registry (walk reach node root)) :
    ∃ names, names ≠ [] ∧ file.path = root ++ names ∧ (∀ name ∈ names, Files.IsPlain name) ∧
      node.at? (root ++ names) = some (.file file.contents) := by
  obtain ⟨item, met, isEligible⟩ := List.mem_filterMap.1 member
  obtain ⟨rfl, _⟩ := Eligible.of?_eq_some_iff.1 isEligible
  exact below_of_mem_walk wellFormed leads isDirectory met rfl

/-- Files that are met on one walk have different keys. -/
theorem nodup_keys (wellFormed : node.WellFormed) (leads : node.at? root = some held)
    (isDirectory : held.isDirectory = true) (reach : Reach) (registry : Registry) :
    ((eligible registry (walk reach node root)).map (Eligible.key root)).Nodup := by
  rw [List.Nodup, List.pairwise_map]
  refine (eligible_inOrder wellFormed leads reach registry).imp_of_mem ?_
  intro first second firstMember secondMember before sameKey
  obtain ⟨firstNames, firstSome, firstPlace, firstPlain, _⟩ :=
    below_of_mem_eligible wellFormed leads isDirectory firstMember
  obtain ⟨secondNames, secondSome, secondPlace, secondPlain, _⟩ :=
    below_of_mem_eligible wellFormed leads isDirectory secondMember
  rw [Eligible.key, Eligible.key, firstPlace, secondPlace] at sameKey
  have sameNames := eq_of_keyBelow_eq firstSome secondSome firstPlain secondPlain sameKey
  rw [firstPlace, secondPlace, sameNames] at before
  exact List.lt_irrefl _ before

end

end LibraryScout.Scan
