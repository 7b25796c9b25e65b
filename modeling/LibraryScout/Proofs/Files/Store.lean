import LibraryScout.Proofs.Files.Node

/-!
Contract: a store stays well-formed whatever is written to it.

Owns: `Store.WellFormed`, and that making directories and writing files keep it. The names that a
path leads to are parts of the path or names already in the store, and neither hold a slash.

Does not own: what is written where.
-/

namespace LibraryScout.Files.Store

/-- A store with a well-formed tree, in a directory whose names are plain. -/
structure WellFormed (store : Store) : Prop where
  root : store.root.WellFormed
  workingDirectory : ∀ name ∈ store.workingDirectory, IsPlain name

theorem wellFormed_empty : empty.WellFormed :=
  ⟨Node.wellFormed_emptyDirectory, fun _ member => absurd member List.not_mem_nil⟩

/-! ## The names that paths lead to -/

theorem isPlain_of_mem_parts {path part : String} (member : part ∈ parts path) :
    IsPlain part := by
  obtain ⟨piece, pieceMember, rfl⟩ := List.mem_map.1 member
  rw [IsPlain, String.toList_ofList]
  exact Text.not_mem_of_mem_cut pieceMember

theorem isPlain_of_splitLast {path above last : String}
    (split : splitLast path = some (above, last)) : IsPlain last := by
  rw [splitLast] at split
  split at split
  next => exact absurd split (by simp)
  next lastPart before reversed =>
    have sameLast : lastPart = last := by
      have pair := Option.some.inj split
      exact congrArg Prod.snd pair
    have inReverse : last ∈ (trimmedParts path).reverse := by
      rw [reversed, sameLast]
      exact List.mem_cons_self
    have inTrimmed : last ∈ (parts path).reverse.dropWhile fun part => part = "" ∨ part = "." := by
      rw [trimmedParts, List.reverse_reverse] at inReverse
      exact inReverse
    exact isPlain_of_mem_parts (List.mem_reverse.1 (List.dropWhile_subset _ inTrimmed))

/-- Where one part of a path leads from a place already reached, which has to be a directory that
can be searched. -/
inductive Passes (store : Store) (reached : List String) : String → List String → Prop where
  | stay {part : String} (nothing : part = "" ∨ part = ".") : Passes store reached part reached
  | up : Passes store reached ".." reached.dropLast
  | down {part : String} {inner : Node} (isName : ¬(part = "" ∨ part = ".") ∧ part ≠ "..")
      (short : part.utf8ByteSize ≤ longestName)
      (present : store.root.at? (reached ++ [part]) = some inner) :
      Passes store reached part (reached ++ [part])

/-- Where the parts of a path lead from a place already reached. -/
inductive Follows (store : Store) : List String → List String → List String → Prop where
  | arrived (reached : List String) : Follows store reached [] reached
  | onward {reached next later names : List String} {part : String} {entries : Entries}
      (directory : store.root.at? reached = some (.directory entries))
      (passes : store.Passes reached part next) (follows : Follows store next later names) :
      Follows store reached (part :: later) names
  /-- An empty part asks for no search, so it leads on from a closed directory as well. -/
  | rested {reached later names : List String} {refusal : String}
      (closed : store.root.at? reached = some (.closedDirectory refusal))
      (follows : Follows store reached later names) : Follows store reached ("" :: later) names

/-- A part leads to one place at most, in whatever store it leads anywhere. -/
theorem Passes.unique {store other : Store} {reached first second : List String} {part : String}
    (toFirst : store.Passes reached part first) (toSecond : other.Passes reached part second) :
    first = second := by
  cases toFirst with
  | stay nothing =>
      cases toSecond with
      | stay => rfl
      | up => exact absurd nothing (by decide)
      | down isName => exact absurd nothing isName.1
  | up =>
      cases toSecond with
      | stay nothing => exact absurd nothing (by decide)
      | up => rfl
      | down isName => exact absurd rfl isName.2
  | down isName =>
      cases toSecond with
      | stay nothing => exact absurd nothing isName.1
      | up => exact absurd rfl isName.2
      | down => rfl

theorem at?_name {store : Store} {reached : List String} {entries : Entries}
    (directory : store.root.at? reached = some (.directory entries)) (name : String) :
    store.root.at? (reached ++ [name]) = entries.get? name := by
  rw [Node.at?_append directory, Node.at?]
  cases found : entries.get? name with
  | none => simp [Node.entries, found]
  | some inner => simp [Node.entries, found, Node.at?]

theorem follow_eq_ok_iff {store : Store} {reached parts names : List String} :
    store.follow reached parts = .ok names ↔ store.Follows reached parts names := by
  constructor
  · intro follows
    induction parts generalizing reached with
    | nil =>
        obtain rfl := Except.ok.inj follows
        exact .arrived _
    | cons part later inductionHypothesis =>
        rw [follow] at follows
        split at follows
        next entries directory =>
          split at follows
          next nothing => exact .onward directory (.stay nothing) (inductionHypothesis follows)
          next named =>
            split at follows
            next isUp => exact isUp ▸ .onward directory .up (inductionHypothesis follows)
            next notUp =>
              split at follows
              · cases follows
              next short =>
                split at follows
                next inner present =>
                  rw [← at?_name directory] at present
                  exact .onward directory (.down ⟨named, notUp⟩ (Nat.not_lt.1 short) present)
                    (inductionHypothesis follows)
                next => cases follows
        next refusal closed =>
          split at follows
          next nothing => exact nothing ▸ .rested closed (inductionHypothesis follows)
          next => cases follows
        next => cases follows
        next => cases follows
  · intro follows
    induction follows with
    | arrived => rfl
    | onward directory passes _ inductionHypothesis =>
        cases passes with
        | stay nothing =>
            simp only [follow, directory, nothing, if_true, inductionHypothesis]
        | up =>
            rw [follow, directory]
            exact inductionHypothesis
        | down isName short present =>
            rw [at?_name directory] at present
            simp only [follow, directory, isName, Nat.not_lt.2 short, present, if_false,
              inductionHypothesis]
    | rested closed _ inductionHypothesis =>
        simp only [follow, closed, if_true, inductionHypothesis]

/-- Following plain parts from plain names leads to plain names. -/
theorem isPlain_of_follow {store : Store} {reached parts names : List String}
    (reachedPlain : ∀ name ∈ reached, IsPlain name) (partsPlain : ∀ part ∈ parts, IsPlain part)
    (follows : store.follow reached parts = .ok names) : ∀ name ∈ names, IsPlain name := by
  rw [follow_eq_ok_iff] at follows
  induction follows with
  | arrived => exact reachedPlain
  | onward _ passes _ inductionHypothesis =>
      refine inductionHypothesis ?_ (List.forall_mem_of_forall_mem_cons partsPlain)
      cases passes with
      | stay => exact reachedPlain
      | up => exact fun name member => reachedPlain name (List.dropLast_subset _ member)
      | down =>
          intro name member
          rcases List.mem_append.1 member with before | here
          · exact reachedPlain name before
          · rw [List.mem_singleton.1 here]
            exact partsPlain _ List.mem_cons_self
  | rested _ _ inductionHypothesis =>
      exact inductionHypothesis reachedPlain (List.forall_mem_of_forall_mem_cons partsPlain)

/-! ## What a path names -/

theorem find_eq_ok_iff {store : Store} {path : String} {names : List String} {node : Node} :
    store.find path = .ok (names, node) ↔
      store.resolve path = .ok names ∧ store.root.at? names = some node := by
  rw [find]
  cases store.resolve path with
  | error fault => simp [bind, Except.bind]
  | ok reached =>
      constructor
      · intro finds
        simp only [bind, Except.bind] at finds
        split at finds
        next held leads =>
          obtain ⟨rfl, rfl⟩ := Prod.mk.inj (Except.ok.inj finds)
          exact ⟨rfl, leads⟩
        next => cases finds
      · rintro ⟨same, leads⟩
        obtain rfl := Except.ok.inj same
        simp only [bind, Except.bind, leads]
        rfl

/-- A path names what its parts lead to, from the top when that is the working directory. -/
theorem find_of_follow {node held : Node} {path : String} {names : List String}
    (noZero : '\x00' ∉ path.toList) (notEmpty : path ≠ "")
    (short : path.utf8ByteSize ≤ longestPath)
    (follows : follow ⟨node, []⟩ [] (parts path) = .ok names)
    (leads : node.at? names = some held) : find ⟨node, []⟩ path = .ok (names, held) := by
  have starts : start ⟨node, []⟩ path = [] := ite_self []
  refine find_eq_ok_iff.2 ⟨?_, leads⟩
  rw [resolve, if_neg noZero, if_neg notEmpty, if_neg (Nat.not_lt.2 short), starts, follows]

/-! ## Making directories and files -/

/-- The directory in which something is to be made, and its name there. -/
theorem placeOf_eq_ok {store : Store} {path last : String} {above : List String}
    (place : store.placeOf path = .ok (above, last)) :
    (∃ abovePath, splitLast path = some (abovePath, last) ∧
        store.follow (store.start path) (parts abovePath) = .ok above) ∧
      (∃ entries, store.root.at? above = some (.directory entries)) ∧
      '\x00' ∉ path.toList ∧ path.utf8ByteSize ≤ longestPath ∧
      last.utf8ByteSize ≤ longestName := by
  rw [placeOf] at place
  split at place
  · cases place
  next noZero =>
    split at place
    · cases place
    next short =>
      split at place
      next => cases place
      next abovePath lastPart split =>
        cases follows : store.follow (store.start path) (parts abovePath) with
        | error fault => simp [follows, bind, Except.bind] at place
        | ok reached =>
            simp only [follows, bind, Except.bind] at place
            split at place
            next entries leads =>
              split at place
              · cases place
              next shortName =>
                obtain ⟨rfl, rfl⟩ := Prod.mk.inj (Except.ok.inj place)
                exact ⟨⟨abovePath, split, follows⟩, ⟨entries, leads⟩, noZero, Nat.not_lt.1 short,
                  Nat.not_lt.1 shortName⟩
            all_goals cases place

/-- A directory is made in one that is there, where nothing is. -/
theorem makeDirectory_eq_ok {store made : Store} {path : String}
    (makes : store.makeDirectory path = .ok made) :
    ∃ above last, store.placeOf path = .ok (above, last) ∧
      store.root.at? (above ++ [last]) = none ∧
      made = { store with root := store.root.put (above ++ [last]) .emptyDirectory } := by
  rw [makeDirectory] at makes
  cases place : store.placeOf path with
  | error fault => simp [place, bind, Except.bind] at makes
  | ok reached =>
      obtain ⟨above, last⟩ := reached
      simp only [place, bind, Except.bind] at makes
      split at makes
      · cases makes
      · split at makes
        next => cases makes
        next free => exact ⟨above, last, rfl, free, (Except.ok.inj makes).symm⟩

/-- A file is written in a directory that is there, and in place of no directory. -/
theorem writeText_eq_ok {store written : Store} {path text : String}
    (writes : store.writeText path text = .ok written) :
    ∃ above last, store.placeOf path = .ok (above, last) ∧
      (∀ held, store.root.at? (above ++ [last]) = some held → held.isDirectory = false) ∧
      written = { store with root := store.root.put (above ++ [last]) (.file text.toUTF8) } := by
  rw [writeText] at writes
  cases place : store.placeOf path with
  | error fault => simp [place, bind, Except.bind] at writes
  | ok reached =>
      obtain ⟨above, last⟩ := reached
      simp only [place, bind, Except.bind] at writes
      split at writes
      · cases writes
      · split at writes
        next => cases writes
        next writable =>
          refine ⟨above, last, rfl, fun held stands => ?_, (Except.ok.inj writes).symm⟩
          rw [stands, Option.bind_some] at writable
          cases held with
          | file contents => rfl
          | directory | closedDirectory => cases writable

/-- What making one directory preserves, making those above it too preserves. -/
theorem makeDirectories_induct {holds : Store → Prop}
    (one : ∀ {store made : Store} {path : String}, holds store →
      store.makeDirectory path = .ok made → holds made)
    {store made : Store} (start : holds store) {path : String}
    (makes : store.makeDirectories path = .ok made) : holds made := by
  rw [makeDirectories] at makes
  generalize (parts path).length + 1 = depth at makes
  induction depth generalizing path made with
  | zero =>
      rw [makeDirectoriesWithin, Except.ok.injEq] at makes
      exact makes ▸ start
  | succ depth inductionHypothesis =>
      rw [makeDirectoriesWithin] at makes
      split at makes
      · exact Except.ok.inj makes ▸ start
      · split at makes
        next direct madeDirectly =>
          exact Except.ok.inj makes ▸ one start madeDirectly
        next =>
          split at makes
          next => cases makes
          next above last split =>
            cases madeAbove : store.makeDirectoriesWithin above depth with
            | error fault => simp [madeAbove, bind, Except.bind] at makes
            | ok outer =>
                have outerHolds := inductionHypothesis madeAbove
                simp only [madeAbove, bind, Except.bind] at makes
                split at makes
                next done madeLast =>
                  exact Except.ok.inj makes ▸ one outerHolds madeLast
                next =>
                  split at makes
                  · exact Except.ok.inj makes ▸ outerHolds
                  · cases makes
        next =>
          split at makes
          · exact Except.ok.inj makes ▸ start
          · cases makes

namespace WellFormed

variable {store : Store}

theorem start (wellFormed : store.WellFormed) (path : String) :
    ∀ name ∈ store.start path, IsPlain name := by
  rw [Store.start]
  split
  · exact fun _ member => absurd member List.not_mem_nil
  · exact wellFormed.workingDirectory

/-- The place where something is to be made has plain names. -/
theorem placeOf (wellFormed : store.WellFormed) {path last : String} {above : List String}
    (place : store.placeOf path = .ok (above, last)) :
    ∀ name ∈ above ++ [last], IsPlain name := by
  obtain ⟨⟨abovePath, split, follows⟩, _⟩ := placeOf_eq_ok place
  have abovePlain := isPlain_of_follow (wellFormed.start path)
    (fun _ member => isPlain_of_mem_parts member) follows
  intro name member
  rcases List.mem_append.1 member with before | here
  · exact abovePlain name before
  · rw [List.mem_singleton.1 here]
    exact isPlain_of_splitLast split

/-- Putting a well-formed node at plain names keeps a store well-formed. -/
theorem put (wellFormed : store.WellFormed) {names : List String} {placed : Node}
    (plainNames : ∀ name ∈ names, IsPlain name) (placedWellFormed : placed.WellFormed) :
    WellFormed { store with root := store.root.put names placed } :=
  ⟨wellFormed.root.put plainNames placedWellFormed, wellFormed.workingDirectory⟩

theorem makeDirectory (wellFormed : store.WellFormed) {path : String} {made : Store}
    (makes : store.makeDirectory path = .ok made) : made.WellFormed := by
  obtain ⟨above, last, place, _, rfl⟩ := makeDirectory_eq_ok makes
  exact wellFormed.put (wellFormed.placeOf place) Node.wellFormed_emptyDirectory

theorem writeText (wellFormed : store.WellFormed) {path text : String} {written : Store}
    (writes : store.writeText path text = .ok written) : written.WellFormed := by
  obtain ⟨above, last, place, _, rfl⟩ := writeText_eq_ok writes
  exact wellFormed.put (wellFormed.placeOf place) (.file text.toUTF8)

theorem makeDirectories (wellFormed : store.WellFormed) {path : String} {made : Store}
    (makes : store.makeDirectories path = .ok made) : made.WellFormed :=
  makeDirectories_induct (fun wellFormed makesOne => wellFormed.makeDirectory makesOne)
    wellFormed makes

end WellFormed

end LibraryScout.Files.Store
