import LibraryScout.Proofs.Files.Node
import LibraryScout.Scan.Directory

/-!
Contract: where the things that a walk meets stand.

Owns:
- what is met at one node, and that a walk meets this at every node that it reaches and nothing
  else;
- that every node but the first stands strictly below the walked one, along plain names;
- that two places below the walked directory are different also when their paths below it are
  written as one text.

Does not own: which entries are passed over. All of this holds for any verdict of the ignore files.
-/

namespace LibraryScout.Scan

open LibraryScout.Files

variable {reach : Reach}

/-! ## One node -/

/-- An entry is met where it stands. -/
theorem ok_mem_metAt_iff {path : List String} {steps : Nat} {node : Node} {found : Found} :
    .ok found ∈ metAt path steps node ↔ found = ⟨path, node⟩ := by
  cases node with
  | file | directory => simp [metAt]
  | closedDirectory refusal => cases steps <;> simp [metAt]

/-- A directory that the walk would list and the system does not is met right after itself. -/
theorem error_mem_metAt_iff {path : List String} {steps : Nat} {node : Node}
    {hindrance : Hindrance} :
    .error hindrance ∈ metAt path steps node ↔
      0 < steps ∧ ∃ refusal, node = .closedDirectory refusal ∧
        hindrance = .unlisted path refusal := by
  cases node with
  | file | directory => simp [metAt]
  | closedDirectory refusal => cases steps <;> simp [metAt]

/-! ## One step of the walk -/

/-- What is met at one entry of a directory from which the walk may still go down. -/
def walkEntry (reach : Reach) (levels : Ignore.Levels) (path : List String) (fewer : Nat)
    (entry : String × Node) : List Item :=
  if passesOver reach levels (path ++ [entry.1]) entry.1 entry.2.isDirectory then []
  else walkNode reach levels (path ++ [entry.1]) fewer entry.2

theorem walkEntries_zero (levels : Ignore.Levels) (path : List String) (entries : Entries) :
    walkEntries reach levels path 0 entries = [] := by
  induction entries with
  | nil => rw [walkEntries]
  | cons entry others inductionHypothesis => rw [walkEntries, inductionHypothesis, List.append_nil]

theorem walkEntries_succ (levels : Ignore.Levels) (path : List String) (fewer : Nat)
    (entries : Entries) :
    walkEntries reach levels path (fewer + 1) entries =
      entries.flatMap (walkEntry reach levels path fewer) := by
  induction entries with
  | nil => rw [walkEntries, List.flatMap_nil]
  | cons entry others inductionHypothesis =>
      rw [walkEntries, inductionHypothesis, List.flatMap_cons]
      rfl

/-- A walk meets a node and then what it holds; only directories that are not closed hold
anything. -/
theorem walkNode_eq (levels : Ignore.Levels) (path : List String) (steps : Nat) (node : Node) :
    walkNode reach levels path steps node =
      metAt path steps node ++
        walkEntries reach (.ofEntries path.length node.entries :: levels) path steps
          node.entries := by
  cases node with
  | directory entries => rw [walkNode, Node.entries]
  | file | closedDirectory =>
      rw [walkNode, Node.entries, walkEntries, List.append_nil]
      all_goals
        intro _ impossible
        cases impossible

theorem mem_walkEntry {levels : Ignore.Levels} {path : List String} {fewer : Nat}
    {entry : String × Node} {item : Item}
    (met : item ∈ walkEntry reach levels path fewer entry) :
    item ∈ metAt (path ++ [entry.1]) fewer entry.2 ∨
      ∃ inner : Ignore.Levels,
        item ∈ walkEntries reach inner (path ++ [entry.1]) fewer entry.2.entries := by
  rw [walkEntry] at met
  split at met
  · exact absurd met List.not_mem_nil
  · rw [walkNode_eq, List.mem_append] at met
    exact met.imp_right fun below => ⟨_, below⟩

/-! ## Everything stands below the walked node -/

theorem below_of_mem_walkEntry {levels : Ignore.Levels} {path : List String} {fewer : Nat}
    {entry : String × Node} {item : Item} (wellFormed : entry.2.WellFormed)
    (met : item ∈ walkEntry reach levels path fewer entry) :
    ∃ names node steps, (∀ name ∈ names, IsPlain name) ∧ entry.2.at? names = some node ∧
      item ∈ metAt (path ++ entry.1 :: names) steps node := by
  induction fewer generalizing levels path entry with
  | zero =>
      rcases mem_walkEntry met with here | ⟨inner, below⟩
      · exact ⟨[], _, _, fun _ member => absurd member List.not_mem_nil, rfl, here⟩
      · rw [walkEntries_zero] at below
        exact absurd below List.not_mem_nil
  | succ fewer inductionHypothesis =>
      rcases mem_walkEntry met with here | ⟨inner, below⟩
      · exact ⟨[], _, _, fun _ member => absurd member List.not_mem_nil, rfl, here⟩
      · rw [walkEntries_succ] at below
        obtain ⟨next, held, metNext⟩ := List.mem_flatMap.1 below
        obtain ⟨names, node, steps, plain, leads, metThere⟩ :=
          inductionHypothesis (wellFormed.inner held) metNext
        rw [List.append_assoc, List.singleton_append] at metThere
        refine ⟨next.1 :: names, node, steps, ?_, ?_, metThere⟩
        · intro name member
          rcases List.mem_cons.1 member with rfl | later
          · exact wellFormed.plain held
          · exact plain name later
        · rw [Node.at?, Entries.get?_of_mem wellFormed.ordered held]
          exact leads

/-- What is met at the entries of a node is met strictly below the node, where its path leads. -/
theorem below_of_mem_walkEntries {levels : Ignore.Levels} {path : List String} {steps : Nat}
    {node : Node} {item : Item} (wellFormed : node.WellFormed)
    (met : item ∈ walkEntries reach levels path steps node.entries) :
    ∃ names here further, names ≠ [] ∧ (∀ name ∈ names, IsPlain name) ∧
      node.at? names = some here ∧ item ∈ metAt (path ++ names) further here := by
  cases steps with
  | zero =>
      rw [walkEntries_zero] at met
      exact absurd met List.not_mem_nil
  | succ fewer =>
      rw [walkEntries_succ] at met
      obtain ⟨entry, held, metEntry⟩ := List.mem_flatMap.1 met
      obtain ⟨names, here, further, plain, leads, metHere⟩ :=
        below_of_mem_walkEntry (wellFormed.inner held) metEntry
      refine ⟨entry.1 :: names, here, further, List.cons_ne_nil entry.1 names, ?_, ?_, metHere⟩
      · intro name inPath
        rcases List.mem_cons.1 inPath with rfl | later
        · exact wellFormed.plain held
        · exact plain name later
      · rw [Node.at?, Entries.get?_of_mem wellFormed.ordered held]
        exact leads

/-! ## The whole walk -/

variable {root : Node} {path : List String} {held : Node}

theorem descend_eq (leads : root.at? path = some held) :
    descend reach root path =
      metAt path reach.maxDepth held ++
        walkEntries reach (Ignore.Levels.along root 0 [] path) path reach.maxDepth
          held.entries := by
  rw [descend, leads]

/-- What a walk meets above its directory is a hindrance. -/
theorem exists_of_mem_rulesAbove {item : Item} (met : item ∈ rulesAbove root path) :
    ∃ complaints, item = .error (.badRules complaints) := by
  rw [rulesAbove] at met
  split at met
  · exact absurd met List.not_mem_nil
  · exact ⟨_, List.mem_singleton.1 met⟩

theorem ok_mem_walk_iff {found : Found} :
    .ok found ∈ walk reach root path ↔ .ok found ∈ descend reach root path := by
  rw [walk, List.mem_append, or_iff_right]
  intro met
  obtain ⟨_, impossible⟩ := exists_of_mem_rulesAbove met
  cases impossible

/-- A file that the walk of a directory of a well-formed tree meets stands strictly below the
directory, where its path leads. -/
theorem below_of_mem_walk (wellFormed : root.WellFormed) (leads : root.at? path = some held)
    (isDirectory : held.isDirectory = true) {found : Found}
    (met : .ok found ∈ walk reach root path) (isFile : found.node.isDirectory = false) :
    ∃ names, names ≠ [] ∧ found.path = path ++ names ∧ (∀ name ∈ names, IsPlain name) ∧
      root.at? (path ++ names) = some found.node := by
  rw [ok_mem_walk_iff, descend_eq leads, List.mem_append, ok_mem_metAt_iff] at met
  rcases met with rfl | below
  · cases isFile.symm.trans isDirectory
  · obtain ⟨names, here, further, someNames, plain, leadsOn, metHere⟩ :=
      below_of_mem_walkEntries (wellFormed.at? leads) below
    obtain rfl := ok_mem_metAt_iff.1 metHere
    exact ⟨names, someNames, rfl, plain, (Node.at?_append leads names).trans leadsOn⟩

/-- Paths below one directory along plain names are the same when their texts below the directory
are the same. -/
theorem eq_of_keyBelow_eq {first second : List String} (firstSome : first ≠ [])
    (secondSome : second ≠ []) (firstPlain : ∀ name ∈ first, IsPlain name)
    (secondPlain : ∀ name ∈ second, IsPlain name)
    (sameKey : keyBelow path (path ++ first) = keyBelow path (path ++ second)) :
    first = second := by
  rw [keyBelow, keyBelow, List.drop_left, List.drop_left] at sameKey
  have sameCut := congrArg (fun key => Text.cut '/' key.toList) sameKey
  have slash : "/" = String.singleton '/' := rfl
  simp only [slash, Text.cut_joined firstSome firstPlain,
    Text.cut_joined secondSome secondPlain] at sameCut
  exact List.map_injective_iff.2 (fun _ _ same => String.toList_injective same) sameCut

end LibraryScout.Scan
