import LibraryScout.Files.Store
import LibraryScout.Proofs.Text.Pieces
import Mathlib.Data.String.Basic

/-!
Contract: the trees that a file system can hold.

Owns:
- which text is read from a file;
- `Node.WellFormed`: every directory has its entries in strict order of their names, so no name
  occurs twice in it, and no name holds a slash;
- that putting nodes at paths without slashes leads from well-formed trees to well-formed trees;
- that a store stays well-formed whatever is written to it.

Does not own: what paths lead to.
-/

namespace LibraryScout.Files

/-- A name that can stand between the slashes of a path. -/
def IsPlain (name : String) : Prop :=
  '/' ∉ name.toList

instance (name : String) : Decidable (IsPlain name) :=
  inferInstanceAs (Decidable ('/' ∉ name.toList))

/-- The bytes of a file are those of one text at most. -/
theorem fromUTF8?_eq_some_iff {contents : ByteArray} {text : String} :
    String.fromUTF8? contents = some text ↔ text.toUTF8 = contents := by
  rw [String.fromUTF8?]
  split
  next valid =>
    rw [Option.some.injEq]
    constructor
    · rintro rfl
      rfl
    · intro same
      exact String.toByteArray_inj.1 same.symm
  next invalid =>
    constructor
    · intro impossible
      exact absurd impossible (by simp)
    · intro same
      exact absurd (same ▸ text.isValidUTF8) invalid

namespace Contents

/-- A text is read from a file that holds its bytes and can be opened. -/
theorem text_eq_ok_iff {contents : Contents} {text : String} :
    contents.text = .ok text ↔ contents = text.toUTF8 := by
  obtain ⟨held, refusal?⟩ := contents
  cases refusal? with
  | some refusal => simp [Contents.text]
  | none =>
      have decoded : String.fromUTF8? held = some text ↔ held = text.toUTF8 := by
        rw [fromUTF8?_eq_some_iff, eq_comm]
      rw [mk.injEq, and_iff_left rfl, ← decoded, Contents.text]
      cases String.fromUTF8? held <;> simp

/-- A file can be opened, and its bytes are those of a text. -/
def IsReadable (contents : Contents) : Prop :=
  contents.refusal? = none ∧ contents.held.IsValidUTF8

instance (contents : Contents) : Decidable contents.IsReadable :=
  inferInstanceAs (Decidable (_ ∧ _))

theorem isReadable_iff {contents : Contents} :
    contents.IsReadable ↔ ∃ text, contents.text = .ok text := by
  obtain ⟨held, refusal?⟩ := contents
  cases refusal? with
  | some refusal => simp [IsReadable, Contents.text]
  | none =>
      by_cases valid : held.IsValidUTF8 <;>
        simp [IsReadable, Contents.text, String.fromUTF8?, valid]

end Contents

namespace Entries

/-- The names of the entries are in strict order. -/
def Ordered (entries : Entries) : Prop :=
  entries.Pairwise fun first second => first.1 < second.1

theorem mem_of_get? {entries : Entries} {name : String} {node : Node}
    (present : entries.get? name = some node) : (name, node) ∈ entries := by
  obtain ⟨before, after, whole, _⟩ := List.lookup_eq_some_iff.1 present
  rw [whole]
  exact List.mem_append_right before List.mem_cons_self

/-- In a directory with its names in strict order every entry is found by its name. -/
theorem get?_of_mem {entries : Entries} (ordered : entries.Ordered) {entry : String × Node}
    (member : entry ∈ entries) : entries.get? entry.1 = some entry.2 := by
  obtain ⟨before, after, rfl⟩ := List.append_of_mem member
  refine List.lookup_eq_some_iff.2 ⟨before, after, rfl, ?_⟩
  intro other otherMember
  have below := (List.pairwise_append.1 ordered).2.2 other otherMember entry List.mem_cons_self
  simpa using (ne_of_lt below).symm

theorem mem_insert {entries : Entries} {name : String} {node : Node} {entry : String × Node}
    (member : entry ∈ entries.insert name node) : entry = (name, node) ∨ entry ∈ entries := by
  induction entries with
  | nil => exact Or.inl (List.mem_singleton.1 member)
  | cons head others inductionHypothesis =>
      obtain ⟨present, held⟩ := head
      rw [insert] at member
      split at member
      · rcases List.mem_cons.1 member with same | later
        · exact Or.inl same
        · exact Or.inr (List.mem_cons_of_mem (present, held) later)
      · split at member
        · exact List.mem_cons.1 member
        · rcases List.mem_cons.1 member with same | later
          · exact Or.inr (same ▸ List.mem_cons_self)
          · rcases inductionHypothesis later with same | inner
            · exact Or.inl same
            · exact Or.inr (List.mem_cons_of_mem (present, held) inner)

theorem ordered_insert {entries : Entries} (ordered : entries.Ordered) (name : String)
    (node : Node) : (entries.insert name node).Ordered := by
  induction entries with
  | nil => exact List.pairwise_singleton _ _
  | cons head others inductionHypothesis =>
      obtain ⟨present, held⟩ := head
      obtain ⟨headBelow, othersOrdered⟩ := List.pairwise_cons.1 ordered
      rw [insert]
      split
      next same => exact List.pairwise_cons.2 ⟨same ▸ headBelow, othersOrdered⟩
      next different =>
        split
        next below =>
          refine List.pairwise_cons.2 ⟨?_, ordered⟩
          intro entry member
          rcases List.mem_cons.1 member with rfl | later
          · exact below
          · exact lt_trans below (headBelow entry later)
        next notBelow =>
          have above : present < name := lt_of_le_of_ne (not_lt.1 notBelow) (Ne.symm different)
          refine List.pairwise_cons.2 ⟨?_, inductionHypothesis othersOrdered⟩
          intro entry member
          rcases mem_insert member with rfl | later
          · exact above
          · exact headBelow entry later

end Entries

namespace Node

/-- A tree with strictly ordered, plain names in every directory. -/
inductive WellFormed : Node → Prop where
  | file (contents : Contents) : WellFormed (.file contents)
  | closedDirectory (refusal : String) : WellFormed (.closedDirectory refusal)
  | directory {entries : Entries} (ordered : entries.Ordered)
      (plain : ∀ entry ∈ entries, IsPlain entry.1)
      (inner : ∀ entry ∈ entries, WellFormed entry.2) : WellFormed (.directory entries)

theorem wellFormed_emptyDirectory : emptyDirectory.WellFormed :=
  .directory List.Pairwise.nil (fun _ member => absurd member List.not_mem_nil)
    fun _ member => absurd member List.not_mem_nil

/-- A longer path leads on from where a shorter one leads. -/
theorem at?_append {node reached : Node} {path : List String} (leads : node.at? path = some reached)
    (names : List String) : node.at? (path ++ names) = reached.at? names := by
  induction path generalizing node with
  | nil =>
      rw [at?, Option.some.injEq] at leads
      rw [List.nil_append, leads]
  | cons name later inductionHypothesis =>
      rw [at?] at leads
      rw [List.cons_append, at?]
      cases present : node.entries.get? name with
      | none => simp [present] at leads
      | some held =>
          rw [present] at leads
          exact inductionHypothesis leads

namespace WellFormed

variable {node : Node}

theorem ordered (wellFormed : node.WellFormed) : node.entries.Ordered := by
  cases wellFormed with
  | file | closedDirectory => exact List.Pairwise.nil
  | directory ordered plain inner => exact ordered

theorem plain (wellFormed : node.WellFormed) {entry : String × Node}
    (member : entry ∈ node.entries) : IsPlain entry.1 := by
  cases wellFormed with
  | file | closedDirectory => exact absurd member List.not_mem_nil
  | directory ordered plain inner => exact plain entry member

theorem inner (wellFormed : node.WellFormed) {entry : String × Node}
    (member : entry ∈ node.entries) : entry.2.WellFormed := by
  cases wellFormed with
  | file | closedDirectory => exact absurd member List.not_mem_nil
  | directory ordered plain inner => exact inner entry member

theorem get? (wellFormed : node.WellFormed) {name : String} {held : Node}
    (present : node.entries.get? name = some held) : held.WellFormed :=
  wellFormed.inner (Entries.mem_of_get? present)

theorem at? {names : List String} {reached : Node} (wellFormed : node.WellFormed)
    (leads : node.at? names = some reached) : reached.WellFormed := by
  induction names generalizing node with
  | nil =>
      rw [Node.at?, Option.some.injEq] at leads
      exact leads ▸ wellFormed
  | cons name names inductionHypothesis =>
      rw [Node.at?] at leads
      split at leads
      next held present => exact inductionHypothesis (wellFormed.get? present) leads
      next => exact absurd leads (by simp)

theorem put {names : List String} {placed : Node} (wellFormed : node.WellFormed)
    (plainNames : ∀ name ∈ names, IsPlain name) (placedWellFormed : placed.WellFormed) :
    (node.put names placed).WellFormed := by
  induction names generalizing node with
  | nil => exact placedWellFormed
  | cons name names inductionHypothesis =>
      have startWellFormed : ((node.entries.get? name).getD emptyDirectory).WellFormed := by
        cases present : node.entries.get? name with
        | none => exact wellFormed_emptyDirectory
        | some held => exact wellFormed.get? present
      have innerWellFormed := inductionHypothesis startWellFormed
        fun inner member => plainNames inner (List.mem_cons_of_mem name member)
      refine .directory (Entries.ordered_insert wellFormed.ordered name _) ?_ ?_
      · intro entry member
        rcases Entries.mem_insert member with rfl | held
        · exact plainNames name List.mem_cons_self
        · exact wellFormed.plain held
      · intro entry member
        rcases Entries.mem_insert member with rfl | held
        · exact innerWellFormed
        · exact wellFormed.inner held

end WellFormed

end Node

end LibraryScout.Files
