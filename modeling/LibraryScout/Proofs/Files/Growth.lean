import LibraryScout.Proofs.Files.Store

/-!
Contract: what stays in a store when directories are made and files are written.

Owns:
- `Store.Keeps`, that nothing is lost between two stores but what files at some places hold;
- that making directories keeps everything, and writing a file everything but that file;
- that paths lead to where they led before, and which paths cannot lead to anything old when they
  lead somewhere for the first time.

Does not own: which files are written.
-/

namespace LibraryScout.Files

/-! ## Entries -/

namespace Entries

theorem get?_cons (present name : String) (held : Node) (others : Entries) :
    get? ((present, held) :: others) name =
      if name = present then some held else get? others name := by
  by_cases same : name = present
  · simp [get?, same]
  · have different : (name == present) = false := by simpa using same
    simp only [get?, List.lookup_cons, different, if_neg same]

theorem get?_insert (entries : Entries) (name other : String) (node : Node) :
    (entries.insert name node).get? other =
      if other = name then some node else entries.get? other := by
  induction entries with
  | nil => rw [insert, get?_cons]
  | cons head others inductionHypothesis =>
      obtain ⟨present, held⟩ := head
      rw [insert]
      split
      next same =>
        subst same
        rw [get?_cons, get?_cons]
        split <;> rfl
      next different =>
        split
        · rw [get?_cons]
        · rw [get?_cons, get?_cons, inductionHypothesis]
          by_cases here : other = present
          · have apart : other ≠ name := fun same => different (same.symm.trans here)
            rw [if_pos here, if_pos here, if_neg apart]
          · rw [if_neg here, if_neg here]

end Entries

/-! ## Trees -/

namespace Node

/-- Only directories that are not closed have entries. -/
theorem exists_of_get? {node inner : Node} {name : String}
    (present : node.entries.get? name = some inner) : ∃ entries, node = .directory entries := by
  cases node with
  | file | closedDirectory => cases present
  | directory entries => exact ⟨entries, rfl⟩

theorem at?_cons (node : Node) (name : String) (names : List String) :
    node.at? (name :: names) = (node.entries.get? name).bind fun inner => inner.at? names := by
  rw [at?]
  cases node.entries.get? name <;> rfl

theorem at?_concat {node held : Node} {path : List String} (leads : node.at? path = some held)
    (name : String) : node.at? (path ++ [name]) = held.entries.get? name := by
  rw [at?_append leads, at?_cons]
  cases held.entries.get? name <;> rfl

theorem at?_put_cons (node placed : Node) (name other : String) (names others : List String) :
    (node.put (name :: names) placed).at? (other :: others) =
      if other = name then
        (((node.entries.get? name).getD emptyDirectory).put names placed).at? others
      else node.at? (other :: others) := by
  rw [put, at?_cons, at?_cons]
  dsimp only [entries]
  rw [Entries.get?_insert]
  split <;> rfl

theorem at?_put_self (node placed : Node) (names : List String) :
    (node.put names placed).at? names = some placed := by
  induction names generalizing node with
  | nil => rfl
  | cons name later inductionHypothesis =>
      rw [at?_put_cons, if_pos rfl, inductionHypothesis]

/-- What becomes of a node when something is put elsewhere: a directory that is not closed stays
one, and anything else stays as it is. -/
def Stays (held now : Node) : Prop :=
  now = held ∨ (∃ entries, held = .directory entries) ∧ ∃ entries, now = .directory entries

theorem Stays.trans {held between now : Node} (first : held.Stays between)
    (second : between.Stays now) : held.Stays now := by
  rcases first with rfl | ⟨wasOpen, entries, rfl⟩
  · exact second
  · rcases second with rfl | ⟨_, isOpen⟩
    · exact .inr ⟨wasOpen, entries, rfl⟩
    · exact .inr ⟨wasOpen, isOpen⟩

theorem Stays.isDirectory_eq {held now : Node} (stays : held.Stays now) :
    now.isDirectory = held.isDirectory := by
  rcases stays with rfl | ⟨⟨_, rfl⟩, _, rfl⟩ <;> rfl

theorem Stays.directory {now : Node} {entries : Entries} (stays : Stays (.directory entries) now) :
    ∃ more, now = .directory more := by
  rcases stays with rfl | ⟨_, isOpen⟩
  · exact ⟨entries, rfl⟩
  · exact isOpen

theorem Stays.closed {now : Node} {refusal : String}
    (stays : Stays (.closedDirectory refusal) now) : now = .closedDirectory refusal := by
  rcases stays with same | ⟨⟨_, impossible⟩, _⟩
  · exact same
  · cases impossible

/-- Where there is no directory, something can be put into the directory above; every other node of
the tree stays. -/
theorem stays_put {node placed : Node} {above : List String} {last : String} {entries : Entries}
    (leads : node.at? above = some (.directory entries))
    (free : ∀ held, node.at? (above ++ [last]) = some held → held.isDirectory = false)
    {names : List String} {held : Node} (other : names ≠ above ++ [last])
    (stands : node.at? names = some held) :
    ∃ now, (node.put (above ++ [last]) placed).at? names = some now ∧ held.Stays now := by
  induction above generalizing node names with
  | nil =>
      obtain rfl := Option.some.inj leads
      cases names with
      | nil =>
          obtain rfl := Option.some.inj stands
          exact ⟨_, rfl, .inr ⟨⟨entries, rfl⟩, _, rfl⟩⟩
      | cons name later =>
          rw [List.nil_append, at?_put_cons]
          split
          next same =>
            -- a node below the place would stand below something else than a directory
            subst same
            rw [List.nil_append, at?_cons] at free
            rw [at?_cons] at stands
            obtain ⟨inner, present, leadsOn⟩ := Option.bind_eq_some_iff.1 stands
            rw [present] at free
            cases later with
            | nil => exact absurd rfl other
            | cons next others =>
                rw [at?_cons] at leadsOn
                obtain ⟨_, below, _⟩ := Option.bind_eq_some_iff.1 leadsOn
                obtain ⟨inside, rfl⟩ := exists_of_get? below
                cases free _ rfl
          next => exact ⟨held, stands, .inl rfl⟩
  | cons first above inductionHypothesis =>
      rw [at?_cons] at leads
      obtain ⟨inner, present, leadsOn⟩ := Option.bind_eq_some_iff.1 leads
      obtain ⟨entries, rfl⟩ := exists_of_get? present
      cases names with
      | nil =>
          obtain rfl := Option.some.inj stands
          exact ⟨_, rfl, .inr ⟨⟨entries, rfl⟩, _, rfl⟩⟩
      | cons name later =>
          rw [List.cons_append, at?_put_cons]
          split
          next same =>
            subst same
            rw [present, Option.getD_some]
            rw [at?_cons, present] at stands
            refine inductionHypothesis leadsOn ?_ (fun same => other (by rw [same]; rfl)) stands
            intro inside standsInside
            refine free inside ?_
            rwa [List.cons_append, at?_cons, present]
          next => exact ⟨held, stands, .inl rfl⟩

theorem at?_append_of_none {node : Node} {front : List String} (nothing : node.at? front = none)
    (back : List String) : node.at? (front ++ back) = none := by
  induction front generalizing node with
  | nil => cases nothing
  | cons name later inductionHypothesis =>
      rw [at?_cons] at nothing
      rw [List.cons_append, at?_cons]
      cases present : node.entries.get? name with
      | none => rfl
      | some inner =>
          rw [present] at nothing
          exact inductionHypothesis nothing

theorem exists_at?_of_append {node held : Node} {front back : List String}
    (leads : node.at? (front ++ back) = some held) : ∃ upper, node.at? front = some upper := by
  rw [← Option.ne_none_iff_exists']
  intro nothing
  rw [at?_append_of_none nothing] at leads
  cases leads

end Node

/-! ## Stores -/

namespace Store

/-- Nothing is lost from one store to another, but what files at some places hold. -/
structure Keeps (except : List String → Prop) (before after : Store) : Prop where
  workingDirectory : after.workingDirectory = before.workingDirectory
  present : ∀ names held, before.root.at? names = some held →
    ∃ now, after.root.at? names = some now ∧ (held.isDirectory = true → held.Stays now)
  files : ∀ names contents, ¬except names → before.root.at? names = some (.file contents) →
    after.root.at? names = some (.file contents)

def Nowhere (_ : List String) : Prop :=
  False

namespace Keeps

variable {except : List String → Prop} {before between after : Store}

theorem refl (store : Store) : Keeps Nowhere store store :=
  ⟨rfl, fun _ held stands => ⟨held, stands, fun _ => .inl rfl⟩, fun _ _ _ stands => stands⟩

/-- What is kept at first is only lost where the second change loses it. -/
theorem trans (first : Keeps Nowhere before between) (second : Keeps except between after) :
    Keeps except before after := by
  refine ⟨second.workingDirectory.trans first.workingDirectory, ?_, ?_⟩
  · intro names held stands
    obtain ⟨inner, standsBetween, kept⟩ := first.present names held stands
    obtain ⟨now, standsAfter, keptAgain⟩ := second.present names inner standsBetween
    refine ⟨now, standsAfter, fun isDirectory => ?_⟩
    have stays := kept isDirectory
    exact stays.trans (keptAgain (stays.isDirectory_eq.trans isDirectory))
  · intro names contents elsewhere stands
    exact second.files names contents elsewhere (first.files names contents id stands)

theorem directory (keeps : Keeps except before after) {names : List String} {entries : Entries}
    (stands : before.root.at? names = some (.directory entries)) :
    ∃ more, after.root.at? names = some (.directory more) := by
  obtain ⟨now, standsAfter, kept⟩ := keeps.present names _ stands
  obtain ⟨more, rfl⟩ := (kept rfl).directory
  exact ⟨more, standsAfter⟩

theorem closed (keeps : Keeps except before after) {names : List String} {refusal : String}
    (stands : before.root.at? names = some (.closedDirectory refusal)) :
    after.root.at? names = some (.closedDirectory refusal) := by
  obtain ⟨now, standsAfter, kept⟩ := keeps.present names _ stands
  rw [standsAfter, (kept rfl).closed]

/-- Something put where there is no directory. -/
theorem put {store : Store} {above : List String} {last : String} {entries : Entries}
    (leads : store.root.at? above = some (.directory entries))
    (free : ∀ held, store.root.at? (above ++ [last]) = some held → held.isDirectory = false)
    (placed : Node) :
    Keeps (· = above ++ [last]) store
      { store with root := store.root.put (above ++ [last]) placed } := by
  refine ⟨rfl, ?_, ?_⟩
  · intro names held stands
    by_cases here : names = above ++ [last]
    · subst here
      refine ⟨placed, Node.at?_put_self _ _ _, fun isDirectory => ?_⟩
      cases (free held stands).symm.trans isDirectory
    · obtain ⟨now, standsAfter, stays⟩ := Node.stays_put leads free here stands
      exact ⟨now, standsAfter, fun _ => stays⟩
  · intro names contents elsewhere stands
    obtain ⟨now, standsAfter, rfl | ⟨⟨_, impossible⟩, _⟩⟩ :=
      Node.stays_put leads free elsewhere stands
    · exact standsAfter
    · cases impossible

end Keeps

/-! ## Making and writing -/

namespace Keeps

theorem makeDirectory {store made : Store} {path : String}
    (makes : store.makeDirectory path = .ok made) : Keeps Nowhere store made := by
  obtain ⟨above, last, place, free, rfl⟩ := makeDirectory_eq_ok makes
  obtain ⟨_, ⟨entries, leads⟩, _⟩ := placeOf_eq_ok place
  have nothing : ∀ held, store.root.at? (above ++ [last]) = some held →
      held.isDirectory = false := fun held stands => by cases free.symm.trans stands
  have keeps := Keeps.put leads nothing .emptyDirectory
  refine ⟨keeps.workingDirectory, keeps.present, ?_⟩
  -- there was no file at the place of the new directory
  intro names contents _ stands
  refine keeps.files names contents ?_ stands
  rintro rfl
  cases free.symm.trans stands

theorem makeDirectories {store made : Store} {path : String}
    (makes : store.makeDirectories path = .ok made) : Keeps Nowhere store made :=
  makeDirectories_induct (fun keeps makesOne => keeps.trans (makeDirectory makesOne))
    (Keeps.refl store) makes

end Keeps

/-! ## Following paths -/

namespace Keeps

variable {except : List String → Prop} {before after : Store}

/-- Parts of a path lead to where they led before. -/
theorem follows (keeps : Keeps except before after) {reached parts names : List String}
    (leads : before.Follows reached parts names) : after.Follows reached parts names := by
  induction leads with
  | arrived => exact .arrived _
  | onward directory passes _ inductionHypothesis =>
      obtain ⟨more, directoryAfter⟩ := keeps.directory directory
      refine .onward directoryAfter ?_ inductionHypothesis
      cases passes with
      | stay nothing => exact .stay nothing
      | up => exact .up
      | down isName short present =>
          obtain ⟨now, presentAfter, _⟩ := keeps.present _ _ present
          exact .down isName short presentAfter
  | rested closed _ inductionHypothesis => exact .rested (keeps.closed closed) inductionHypothesis

/-- What is a directory now was one before, if it was anything. -/
theorem directory_back (keeps : Keeps Nowhere before after) {names : List String}
    {entries : Entries} (directory : after.root.at? names = some (.directory entries))
    (stood : before.root.at? names ≠ none) :
    ∃ fewer, before.root.at? names = some (.directory fewer) := by
  obtain ⟨held, stands⟩ := Option.ne_none_iff_exists'.1 stood
  cases held with
  | file contents => cases directory.symm.trans (keeps.files names contents id stands)
  | closedDirectory refusal => cases directory.symm.trans (keeps.closed stands)
  | directory fewer => exact ⟨fewer, stands⟩

/-- What is a closed directory now was one before, if it was anything. -/
theorem closed_back (keeps : Keeps Nowhere before after) {names : List String} {refusal : String}
    (closed : after.root.at? names = some (.closedDirectory refusal))
    (stood : before.root.at? names ≠ none) :
    before.root.at? names = some (.closedDirectory refusal) := by
  obtain ⟨held, stands⟩ := Option.ne_none_iff_exists'.1 stood
  cases held with
  | file contents => cases closed.symm.trans (keeps.files names contents id stands)
  | closedDirectory other =>
      have same := closed.symm.trans (keeps.closed stands)
      obtain rfl := Node.closedDirectory.inj (Option.some.inj same)
      exact stands
  | directory fewer =>
      obtain ⟨more, directory⟩ := keeps.directory stands
      cases closed.symm.trans directory

end Keeps

/-- A part that leads on in one store leads to the same place in another, or the place is not there
in that one. -/
theorem Passes.back {before after : Store} {reached next : List String} {part : String}
    (passes : after.Passes reached part next) :
    before.Passes reached part next ∨ before.root.at? next = none := by
  cases passes with
  | stay nothing => exact .inl (.stay nothing)
  | up => exact .inl .up
  | down isName short =>
      cases present : before.root.at? (reached ++ [part]) with
      | some inner => exact .inl (.down isName short present)
      | none => exact .inr rfl

/-- A path that does not go up leads further down. -/
theorem Follows.prefix_of_not_mem {store : Store} {reached parts names : List String}
    (follows : store.Follows reached parts names) (noUp : ".." ∉ parts) : reached <+: names := by
  induction follows with
  | arrived => exact List.prefix_rfl
  | onward _ passes _ inductionHypothesis =>
      rw [List.mem_cons, not_or] at noUp
      refine List.IsPrefix.trans ?_ (inductionHypothesis noUp.2)
      cases passes with
      | stay => exact List.prefix_rfl
      | up => exact absurd rfl noUp.1
      | down => exact List.prefix_append _ _
  | rested _ _ inductionHypothesis =>
      rw [List.mem_cons, not_or] at noUp
      exact inductionHypothesis noUp.2

/-- Wherever the parts of a path go up, they go up from a place that is there. -/
def Anchored (store : Store) (reached parts : List String) : Prop :=
  ∀ front back, parts = front ++ ".." :: back →
    ∃ names, store.Follows reached front names ∧ store.root.at? names ≠ none

theorem anchored_of_not_mem (store : Store) (reached : List String) {parts : List String}
    (noUp : ".." ∉ parts) : store.Anchored reached parts := by
  rintro front back rfl
  exact absurd (by simp) noUp

namespace Anchored

variable {before after : Store} {reached next parts later : List String} {part : String}

theorem of_append (anchored : before.Anchored reached (parts ++ later)) :
    before.Anchored reached parts := by
  rintro front back rfl
  exact anchored front (back ++ later) (by simp)

theorem onward (anchored : before.Anchored reached (part :: later))
    (passes : after.Passes reached part next) : before.Anchored next later := by
  intro front back split
  obtain ⟨names, follows, there⟩ := anchored (part :: front) back (by rw [split]; rfl)
  cases follows with
  | onward _ passed followed => exact ⟨names, passes.unique passed ▸ followed, there⟩
  | rested _ followed =>
      have stays : before.Passes reached "" reached := .stay (.inl rfl)
      exact ⟨names, passes.unique stays ▸ followed, there⟩

/-- From a place that is not there an anchored path cannot go up. -/
theorem not_mem_of_nothing (anchored : before.Anchored reached parts)
    (nothing : before.root.at? reached = none) : ".." ∉ parts := by
  intro member
  obtain ⟨front, back, rfl⟩ := List.append_of_mem member
  obtain ⟨names, follows, there⟩ := anchored front back rfl
  cases follows with
  | arrived => exact there nothing
  | onward directory => cases nothing.symm.trans directory
  | rested closed => cases nothing.symm.trans closed

end Anchored

/-- What is not there stays out of reach: an anchored path from it leads to what is not there. -/
theorem Follows.nothing_of_anchored {before after : Store} {reached parts names : List String}
    (leads : after.Follows reached parts names) (anchored : before.Anchored reached parts)
    (nothing : before.root.at? reached = none) : before.root.at? names = none := by
  obtain ⟨rest, rfl⟩ := leads.prefix_of_not_mem (anchored.not_mem_of_nothing nothing)
  exact Node.at?_append_of_none nothing rest

/-- Where nothing was lost, an anchored path leads to where it led before or to a place that was not
there. -/
theorem Keeps.follows_back {before after : Store} (keeps : Keeps Nowhere before after)
    {reached parts names : List String} (leads : after.Follows reached parts names)
    (anchored : before.Anchored reached parts) :
    before.Follows reached parts names ∨ before.root.at? names = none := by
  induction leads with
  | arrived => exact .inl (.arrived _)
  | @onward reached _ _ _ _ _ directory passes leadsOn inductionHypothesis =>
      have anchoredOn := anchored.onward passes
      by_cases nothing : before.root.at? reached = none
      · exact .inr ((Follows.onward directory passes leadsOn).nothing_of_anchored anchored nothing)
      · obtain ⟨fewer, directoryBefore⟩ := keeps.directory_back directory nothing
        rcases passes.back with passed | nothingNext
        · exact (inductionHypothesis anchoredOn).imp_left (.onward directoryBefore passed)
        · exact .inr (leadsOn.nothing_of_anchored anchoredOn nothingNext)
  | @rested reached _ _ _ closed leadsOn inductionHypothesis =>
      have stays : after.Passes reached "" reached := .stay (.inl rfl)
      by_cases nothing : before.root.at? reached = none
      · exact .inr ((Follows.rested closed leadsOn).nothing_of_anchored anchored nothing)
      · have closedBefore := keeps.closed_back closed nothing
        exact (inductionHypothesis (anchored.onward stays)).imp_left (.rested closedBefore)

end Store

end LibraryScout.Files
