import LibraryScout.Proofs.Files.Growth

/-!
Contract: reading files after one was written.

Owns:
- when a text is read under a path;
- that what was written under a path that ends with a name is read under it;
- that a text which could not be read under an anchored path, before the directories on its way were
  made, is not lost when that path is written to.

Does not own: paths that end with a slash or with dots.
-/

namespace LibraryScout.Files.Store

/-! ## Reading -/

/-- A path that can be looked up. -/
def IsUsable (path : String) : Prop :=
  '\x00' ∉ path.toList ∧ path ≠ "" ∧ path.utf8ByteSize ≤ longestPath

theorem resolve_eq_ok_iff {store : Store} {path : String} {names : List String} :
    store.resolve path = .ok names ↔
      IsUsable path ∧ store.Follows (store.start path) (parts path) names := by
  rw [resolve, IsUsable]
  split
  next zero => simp [zero]
  next noZero =>
    split
    next empty => simp [empty]
    next nonempty =>
      split
      next long => simp [Nat.not_le.2 long]
      next short => simp [noZero, nonempty, Nat.not_lt.1 short, follow_eq_ok_iff]

/-- The text of a file is read under the paths that lead to it. -/
theorem readText_eq_ok_iff {store : Store} {path text : String} :
    store.readText path = .ok text ↔
      ∃ names, store.resolve path = .ok names ∧
        store.root.at? names = some (.file text.toUTF8) := by
  rw [readText, find]
  cases store.resolve path with
  | error fault => simp [bind, Except.bind]
  | ok names =>
      cases leads : store.root.at? names with
      | none => simp [bind, Except.bind, leads]
      | some node =>
          cases node with
          | directory | closedDirectory => simp [bind, Except.bind, leads, pure, Except.pure]
          | file contents =>
              simpa [bind, Except.bind, leads, pure, Except.pure] using contents.text_eq_ok_iff

namespace Keeps

variable {except : List String → Prop} {before after : Store}

theorem start (keeps : Keeps except before after) (path : String) :
    after.start path = before.start path := by
  rw [Store.start, Store.start, keeps.workingDirectory]

theorem resolve (keeps : Keeps except before after) {path : String} {names : List String}
    (resolves : before.resolve path = .ok names) : after.resolve path = .ok names := by
  rw [resolve_eq_ok_iff] at resolves ⊢
  rw [keeps.start]
  exact ⟨resolves.1, keeps.follows resolves.2⟩

/-- Texts are read as before, apart from those of the files that were not kept. -/
theorem readText (keeps : Keeps except before after) {path text : String}
    (reads : before.readText path = .ok text)
    (elsewhere : ∀ names, before.resolve path = .ok names → ¬except names) :
    after.readText path = .ok text := by
  obtain ⟨names, resolves, stands⟩ := readText_eq_ok_iff.1 reads
  exact readText_eq_ok_iff.2
    ⟨names, keeps.resolve resolves, keeps.files names _ (elsewhere names resolves) stands⟩

end Keeps

/-! ## Paths that end with a name -/

/-- A path of some parts and a name. -/
structure EndsWith (path : String) (front : List String) (last : String) : Prop where
  whole : parts path = front ++ [last]
  isName : ¬(last = "" ∨ last = ".") ∧ last ≠ ".."
  short : last.utf8ByteSize ≤ longestName

theorem Follows.append {store : Store} {reached between names front back : List String}
    (first : store.Follows reached front between) (second : store.Follows between back names) :
    store.Follows reached (front ++ back) names := by
  induction first with
  | arrived => exact second
  | onward directory passes _ inductionHypothesis =>
      exact .onward directory passes (inductionHypothesis second)
  | rested closed _ inductionHypothesis => exact .rested closed (inductionHypothesis second)

/-- Empty parts lead nowhere else. -/
theorem Follows.of_replicate {store : Store} {reached names later : List String} {count : Nat}
    (leads : store.Follows reached (List.replicate count "" ++ later) names) :
    store.Follows reached later names := by
  induction count with
  | zero => exact leads
  | succ count inductionHypothesis =>
      rw [List.replicate_succ, List.cons_append] at leads
      cases leads with
      | onward _ passes leadsOn =>
          have stays : store.Passes reached "" reached := .stay (.inl rfl)
          obtain rfl := passes.unique stays
          exact inductionHypothesis leadsOn
      | rested _ leadsOn => exact inductionHypothesis leadsOn

namespace EndsWith

variable {path last : String} {front : List String} (ends : EndsWith path front last)

include ends

theorem ne_empty : path ≠ "" := by
  rintro rfl
  have whole : [""] = front ++ [last] := ends.whole
  have same : some "" = some last := by simpa using congrArg List.getLast? whole
  exact ends.isName.1 (.inl (Option.some.inj same).symm)

/-- Such a path is split before its name, up to slashes at its front. -/
theorem exists_splitLast :
    ∃ above count, splitLast path = some (above, last) ∧
      parts above = List.replicate count "" ++ front := by
  have trimmed : (trimmedParts path).reverse = last :: front.reverse := by
    have noEnd : (decide (last = "") || decide (last = ".")) = false := by
      simpa using ends.isName.1
    simp [trimmedParts, ends.whole, ends.isName.1]
  have plain : ∀ part ∈ front, '/' ∉ part.toList := by
    intro part member
    have within : part ∈ parts path := ends.whole ▸ List.mem_append_left [last] member
    exact isPlain_of_mem_parts within
  have joinedParts : ∃ count, parts (Text.joined "/" front) =
      List.replicate count "" ++ front := by
    by_cases nothing : front = []
    · subst nothing
      exact ⟨1, rfl⟩
    · refine ⟨0, ?_⟩
      have cut := Text.cut_joined nothing plain
      have mark : String.singleton '/' = "/" := rfl
      rw [mark] at cut
      simp [parts, cut]
  rw [splitLast, trimmed]
  simp only [List.reverse_reverse]
  obtain ⟨count, separated⟩ := joinedParts
  split
  next bare =>
    refine ⟨_, count + 1, rfl, ?_⟩
    rw [bare.1] at separated
    rw [List.replicate_succ, List.cons_append, ← separated]
    rfl
  next => exact ⟨_, count, rfl, separated⟩

/-- Something under such a path is made where the parts before its name lead. -/
theorem of_placeOf {store : Store} {above : List String} {name : String}
    (place : store.placeOf path = .ok (above, name)) :
    name = last ∧ IsUsable path ∧ store.Follows (store.start path) front above ∧
      ∃ entries, store.root.at? above = some (.directory entries) := by
  obtain ⟨⟨abovePath, split, follows⟩, directory, noZero, shortPath, _⟩ := placeOf_eq_ok place
  obtain ⟨written, count, splits, separated⟩ := ends.exists_splitLast
  obtain ⟨rfl, rfl⟩ := Prod.mk.inj (Option.some.inj (split.symm.trans splits))
  rw [follow_eq_ok_iff, separated] at follows
  exact ⟨rfl, ⟨noZero, ends.ne_empty, shortPath⟩, follows.of_replicate, directory⟩

/-- A name in a directory to which the parts before it lead is what the path leads to. -/
theorem resolve_of_follows {store : Store} {above : List String} {entries : Entries} {node : Node}
    (usable : IsUsable path) (follows : store.Follows (store.start path) front above)
    (directory : store.root.at? above = some (.directory entries))
    (present : store.root.at? (above ++ [last]) = some node) :
    store.resolve path = .ok (above ++ [last]) := by
  rw [resolve_eq_ok_iff, ends.whole]
  refine ⟨usable, follows.append (.onward directory ?_ (.arrived _))⟩
  exact .down ends.isName ends.short present

variable {store written : Store} {text : String}

/-- What is written is read back. -/
theorem readText_of_writeText (writes : store.writeText path text = .ok written) :
    written.readText path = .ok text := by
  obtain ⟨above, name, place, free, rfl⟩ := writeText_eq_ok writes
  obtain ⟨rfl, usable, follows, entries, directory⟩ := ends.of_placeOf place
  have keeps := Keeps.put directory free (.file text.toUTF8)
  obtain ⟨more, directoryAfter⟩ := keeps.directory directory
  have stands := Node.at?_put_self store.root (.file text.toUTF8) (above ++ [name])
  have followsAfter := keeps.follows follows
  rw [← keeps.start path] at followsAfter
  exact readText_eq_ok_iff.2
    ⟨_, ends.resolve_of_follows usable followsAfter directoryAfter stands, stands⟩

/-- A text that is read under some path is still read there when a file is written under an anchored
path under which that text was not read. -/
theorem readText_kept {before : Store} (keeps : Keeps Nowhere before store)
    (anchored : before.Anchored (before.start path) front)
    (writes : store.writeText path text = .ok written) {other old : String}
    (reads : before.readText other = .ok old) (differs : before.readText path ≠ .ok old) :
    written.readText other = .ok old := by
  obtain ⟨above, name, place, free, rfl⟩ := writeText_eq_ok writes
  obtain ⟨rfl, usable, follows, entries, directory⟩ := ends.of_placeOf place
  have keepsBoth := keeps.trans (Keeps.put directory free (.file text.toUTF8))
  refine keepsBoth.readText reads ?_
  rintro _ resolves rfl
  obtain ⟨_, resolvesToo, stands⟩ := readText_eq_ok_iff.1 reads
  obtain rfl := Except.ok.inj (resolves.symm.trans resolvesToo)
  -- the file was there before, so the path led to it before
  rw [keeps.start path] at follows
  rcases keeps.follows_back follows anchored with followed | nothing
  · obtain ⟨fewer, directoryBefore⟩ := keeps.directory_back directory fun nothing => by
      cases (Node.at?_append_of_none nothing [name]).symm.trans stands
    exact differs (readText_eq_ok_iff.2
      ⟨_, ends.resolve_of_follows usable followed directoryBefore stands, stands⟩)
  · cases (Node.at?_append_of_none nothing [name]).symm.trans stands

end EndsWith

end LibraryScout.Files.Store
