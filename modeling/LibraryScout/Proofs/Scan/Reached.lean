import LibraryScout.Proofs.Files.Growth
import LibraryScout.Proofs.Scan.Noted

/-!
Contract: what a walk meets, stated without the walk.

Owns:
- `verdictAt?`, what the ignore files on the way to an entry say about it, and `PassedAt`, whether a
  walk that comes by an entry passes over it;
- `Open`, a way down along which nothing is passed over;
- that a walk meets exactly what stands at the end of open ways that are short enough;
- the same for the files that a scan may take, and for the directories that it cannot list.

Does not own: the order in which things are met.
-/

namespace LibraryScout.Scan

open LibraryScout.Files LibraryScout.Source

/-! ## The levels on the way -/

theorem along_concat {node inner : Node} {path : List String} {name : String} (depth : Nat)
    (outer : Ignore.Levels) (leads : node.at? (path ++ [name]) = some inner) :
    Ignore.Levels.along node depth outer (path ++ [name]) =
      .ofEntries (depth + path.length + 1) inner.entries ::
        Ignore.Levels.along node depth outer path := by
  induction path generalizing node depth outer with
  | nil =>
      rw [List.nil_append, Node.at?_cons] at leads
      obtain ⟨held, present, here⟩ := Option.bind_eq_some_iff.1 leads
      obtain rfl := Option.some.inj here
      simp only [List.nil_append, Ignore.Levels.along, present, List.length_nil, Nat.add_zero]
  | cons first later inductionHypothesis =>
      rw [List.cons_append, Node.at?_cons] at leads
      obtain ⟨held, present, leadsOn⟩ := Option.bind_eq_some_iff.1 leads
      simp only [List.cons_append, Ignore.Levels.along, present]
      rw [inductionHypothesis (depth + 1) _ leadsOn, List.length_cons, Nat.add_right_comm depth 1,
        Nat.add_assoc depth]

/-! ## Entries that are passed over -/

/-- What the ignore files on the way to an entry say about it. -/
def verdictAt? (top : Node) (above : List String) (name : String) : Option Ignore.Verdict :=
  (top.at? (above ++ [name])).bind fun node =>
    (Ignore.Levels.along top 0 [] above).verdict? (above ++ [name]) node.isDirectory

/-- A walk that comes by an entry passes over it: it is ignored, or it is hidden, hidden entries are
not wanted, and no rule keeps it. -/
def PassedAt (reach : Reach) (top : Node) (above : List String) (name : String) : Prop :=
  verdictAt? top above name = some .ignored ∨
    verdictAt? top above name = none ∧ reach.hidden = false ∧ isHidden name = true

theorem passesOver_iff_passedAt {reach : Reach} {top node : Node} {above : List String}
    {name : String} (held : top.at? (above ++ [name]) = some node) :
    passesOver reach (Ignore.Levels.along top 0 [] above) (above ++ [name]) name
      node.isDirectory = true ↔ PassedAt reach top above name := by
  rw [passesOver, PassedAt, verdictAt?, held, Option.bind_some]
  cases (Ignore.Levels.along top 0 [] above).verdict? (above ++ [name]) node.isDirectory with
  | none => simp
  | some verdict => cases verdict <;> simp

/-- What is passed over although hidden entries are wanted is passed over in any case. -/
theorem PassedAt.of_hidden {reach other : Reach} {top : Node} {above : List String} {name : String}
    (shown : reach.hidden = false → other.hidden = false) (passed : PassedAt reach top above name) :
    PassedAt other top above name :=
  passed.imp_right fun ⟨silent, hides, dotted⟩ => ⟨silent, shown hides, dotted⟩

/-! ## Open ways -/

/-- Nothing on the way along some names, from a directory down, is passed over. -/
def Open (reach : Reach) (top : Node) (root names : List String) : Prop :=
  ∀ before name after, names = before ++ name :: after → ¬ PassedAt reach top (root ++ before) name

section

variable {reach : Reach} {top : Node} {root : List String}

theorem open_nil : Open reach top root [] := by
  intro before name after split
  exact absurd split (by simp)

theorem open_cons {name : String} {later : List String} :
    Open reach top root (name :: later) ↔
      ¬ PassedAt reach top root name ∧ Open reach top (root ++ [name]) later := by
  constructor
  · intro isOpen
    refine ⟨?_, ?_⟩
    · simpa using isOpen [] name later rfl
    · rintro before other after rfl
      simpa using isOpen (name :: before) other after rfl
  · rintro ⟨first, others⟩ before other after split
    cases before with
    | nil =>
        obtain ⟨rfl, rfl⟩ := List.cons.inj split
        simpa using first
    | cons next before =>
        obtain ⟨rfl, rfl⟩ := List.cons.inj split
        simpa using others before other after rfl

/-- A way that is open to a walk is open to one that wants hidden entries besides. -/
theorem Open.of_hidden {other : Reach} {names : List String}
    (shown : other.hidden = false → reach.hidden = false) (isOpen : Open reach top root names) :
    Open other top root names :=
  fun before name after split passed =>
    isOpen before name after split (passed.of_hidden shown)

end

/-! ## What is met -/

variable {reach : Reach} {top : Node}

/-- What is met at one entry of a directory: nothing if the entry is passed over, and otherwise what
is met at the entry itself and below it. -/
theorem mem_walkEntry_iff {path : List String} {name : String} {node : Node} {fewer : Nat}
    {item : Item} (leads : top.at? (path ++ [name]) = some node) :
    item ∈ walkEntry reach (Ignore.Levels.along top 0 [] path) path fewer (name, node) ↔
      ¬ PassedAt reach top path name ∧ (item ∈ metAt (path ++ [name]) fewer node ∨
        item ∈ walkEntries reach (Ignore.Levels.along top 0 [] (path ++ [name])) (path ++ [name])
          fewer node.entries) := by
  rw [along_concat 0 [] leads, walkEntry, walkNode_eq, ← passesOver_iff_passedAt leads,
    List.length_append, List.length_singleton, Nat.zero_add]
  split
  next passed => simp [passed]
  next kept => simp [kept]

/-- What is met below a directory is met at the end of an open way of at most so many names as the
walk may go down; there it may go down so many names less. -/
theorem mem_walkEntries_iff (wellFormed : top.WellFormed) {path : List String} {here : Node}
    (leads : top.at? path = some here) {steps : Nat} {item : Item} :
    item ∈ walkEntries reach (Ignore.Levels.along top 0 [] path) path steps here.entries ↔
      ∃ names node, names ≠ [] ∧ names.length ≤ steps ∧ Open reach top path names ∧
        top.at? (path ++ names) = some node ∧
        item ∈ metAt (path ++ names) (steps - names.length) node := by
  induction steps generalizing path here with
  | zero =>
      rw [walkEntries_zero]
      simp only [List.not_mem_nil, false_iff]
      rintro ⟨names, -, someNames, none, -⟩
      exact someNames (List.eq_nil_of_length_eq_zero (Nat.le_zero.1 none))
  | succ fewer inductionHypothesis =>
      have onward (name : String) (later : List String) :
          path ++ name :: later = (path ++ [name]) ++ later := List.append_cons path name later
      rw [walkEntries_succ, List.mem_flatMap]
      constructor
      · rintro ⟨⟨name, node⟩, member, met⟩
        have leadsOn : top.at? (path ++ [name]) = some node := by
          rw [Node.at?_concat leads]
          exact Entries.get?_of_mem (wellFormed.at? leads).ordered member
        obtain ⟨kept, metHere | below⟩ := (mem_walkEntry_iff leadsOn).1 met
        · exact ⟨[name], node, List.cons_ne_nil name [], Nat.succ_pos fewer,
            open_cons.2 ⟨kept, open_nil⟩, leadsOn, metHere⟩
        · obtain ⟨names, there, -, short, isOpen, stands, metThere⟩ :=
            (inductionHypothesis leadsOn).1 below
          refine ⟨name :: names, there, List.cons_ne_nil name names, Nat.succ_le_succ short,
            open_cons.2 ⟨kept, isOpen⟩, ?_, ?_⟩
          · rw [onward, stands]
          · rwa [onward, List.length_cons, Nat.add_sub_add_right]
      · rintro ⟨names, node, someNames, short, isOpen, stands, met⟩
        obtain ⟨name, later, rfl⟩ := List.exists_cons_of_ne_nil someNames
        obtain ⟨kept, laterOpen⟩ := open_cons.1 isOpen
        have leadsThrough := stands
        rw [Node.at?_append leads, Node.at?_cons] at leadsThrough
        obtain ⟨first, present, leadsOn⟩ := Option.bind_eq_some_iff.1 leadsThrough
        have leadsHere := (Node.at?_concat leads name).trans present
        refine ⟨(name, first), Entries.mem_of_get? present,
          (mem_walkEntry_iff leadsHere).2 ⟨kept, ?_⟩⟩
        cases later with
        | nil =>
            obtain rfl := Option.some.inj leadsOn
            exact Or.inl met
        | cons next others =>
            rw [onward] at stands met
            rw [List.length_cons, Nat.add_sub_add_right] at met
            exact Or.inr ((inductionHypothesis leadsHere).2 ⟨next :: others, node,
              List.cons_ne_nil next others, Nat.le_of_succ_le_succ short, laterOpen, stands, met⟩)

/-- What is met at and below a node is met at the end of open ways that are short enough. -/
theorem mem_descend_iff (wellFormed : top.WellFormed) {root : List String} {held : Node}
    (leads : top.at? root = some held) {item : Item} :
    item ∈ descend reach top root ↔
      ∃ names node, names.length ≤ reach.maxDepth ∧ Open reach top root names ∧
        top.at? (root ++ names) = some node ∧
        item ∈ metAt (root ++ names) (reach.maxDepth - names.length) node := by
  rw [descend_eq leads, List.mem_append, mem_walkEntries_iff wellFormed leads]
  constructor
  · rintro (here | ⟨names, node, -, below⟩)
    · refine ⟨[], held, Nat.zero_le _, open_nil, ?_⟩
      rw [List.append_nil]
      exact ⟨leads, here⟩
    · exact ⟨names, node, below⟩
  · rintro ⟨names, node, short, isOpen, stands, met⟩
    cases names with
    | nil =>
        rw [List.append_nil] at stands met
        obtain rfl := Option.some.inj (leads.symm.trans stands)
        exact Or.inl met
    | cons name later =>
        exact Or.inr ⟨name :: later, node, List.cons_ne_nil name later, short, isOpen, stands, met⟩

/-- A walk meets the nodes at the end of open ways that are short enough. -/
theorem ok_mem_descend_iff (wellFormed : top.WellFormed) {root : List String} {held : Node}
    (leads : top.at? root = some held) {found : Found} :
    .ok found ∈ descend reach top root ↔
      top.at? found.path = some found.node ∧ ∃ names, found.path = root ++ names ∧
        names.length ≤ reach.maxDepth ∧ Open reach top root names := by
  rw [mem_descend_iff wellFormed leads]
  constructor
  · rintro ⟨names, node, short, isOpen, stands, met⟩
    obtain rfl := ok_mem_metAt_iff.1 met
    exact ⟨stands, names, rfl, short, isOpen⟩
  · rintro ⟨stands, names, place, short, isOpen⟩
    refine ⟨names, found.node, short, isOpen, place ▸ stands, ok_mem_metAt_iff.2 ?_⟩
    rw [← place]

/-- A walk meets hindrances at the closed directories at the end of open ways that are short enough
for it to go on from there. -/
theorem error_mem_descend_iff (wellFormed : top.WellFormed) {root : List String} {held : Node}
    (leads : top.at? root = some held) {hindrance : Hindrance} :
    .error hindrance ∈ descend reach top root ↔
      ∃ path refusal, hindrance = .unlisted path refusal ∧
        top.at? path = some (.closedDirectory refusal) ∧ ∃ names, path = root ++ names ∧
          names.length < reach.maxDepth ∧ Open reach top root names := by
  rw [mem_descend_iff wellFormed leads]
  constructor
  · rintro ⟨names, node, short, isOpen, stands, met⟩
    obtain ⟨further, refusal, rfl, rfl⟩ := error_mem_metAt_iff.1 met
    exact ⟨_, refusal, rfl, stands, names, rfl, Nat.lt_of_sub_pos further, isOpen⟩
  · rintro ⟨_, refusal, rfl, stands, names, rfl, short, isOpen⟩
    exact ⟨names, .closedDirectory refusal, Nat.le_of_lt short, isOpen, stands,
      error_mem_metAt_iff.2 ⟨Nat.sub_pos_of_lt short, refusal, rfl, rfl⟩⟩

/-! ## Files that a scan may take -/

/-- A file that a scan may take is one for the name of which there is an extractor, at the end of an
open way that is short enough. -/
theorem mem_eligible_iff (wellFormed : top.WellFormed) {root : List String} {held : Node}
    (leads : top.at? root = some held) {registry : Registry} {file : Eligible} :
    file ∈ eligible registry (walk reach top root) ↔
      top.at? file.path = some (.file file.contents) ∧
        registry.forFile? (file.path.getLast?.getD "") = some file.extractor ∧
        ∃ names, file.path = root ++ names ∧ names.length ≤ reach.maxDepth ∧
          Open reach top root names := by
  rw [eligible_walk, eligible, List.mem_filterMap]
  simp only [Eligible.of?_eq_some_iff]
  constructor
  · rintro ⟨_, met, rfl, registered⟩
    obtain ⟨stands, way⟩ := (ok_mem_descend_iff wellFormed leads).1 met
    exact ⟨stands, registered, way⟩
  · rintro ⟨stands, registered, way⟩
    exact ⟨_, (ok_mem_descend_iff wellFormed leads).2 ⟨stands, way⟩, rfl, registered⟩

end LibraryScout.Scan
