import LibraryScout.Proofs.Imports.Neighbours
import LibraryScout.Proofs.Text.LineEnds

/-!
Contract: import statements of texts with a carriage return before every line feed.

Owns:
- Java: a statement is read as it is without the carriage returns, and so are all of a text;
- Python: the same for plain imports, and for imports of names unless they hang on the end of a
  line. `HangsOnLineEnd` lists those: the patterns take a line feed for one of the blanks around
  the word, and a carriage return for a name.

Does not own: the packages that an extraction makes of paths and lists.
-/

namespace LibraryScout.Imports

open LibraryScout.Source LibraryScout.Text

namespace Java

theorem statement?_shortens {text path rest : List Char}
    (read : statement? text = some (path, rest)) : rest.length < text.length := by
  obtain ⟨blanks, rfl, -⟩ := statement?_eq_some_iff.1 read
  simp only [List.length_append, List.length_cons]
  omega

theorem statement?_isStatement : IsStatement statement? where
  leaves := by
    intro text path rest read
    obtain ⟨blanks, rfl, -⟩ := statement?_eq_some_iff.1 read
    exact ⟨"import ".toList ++ path ++ blanks ++ [';'], by simp⟩
  start := by
    intro character text blank
    have different : 'i' ≠ character := by
      rintro rfl
      exact absurd blank (by decide)
    simp [statement?, after?, different]
  finished := by
    rintro text ⟨path, left⟩ rest read
    obtain ⟨blanks, rfl, nonempty, inPath, blank⟩ := statement?_eq_some_iff.1 read
    rw [ReadsWithin, read, List.append_assoc _ (';' :: left)]
    exact statement?_written nonempty inPath blank (left ++ '\n' :: rest)

theorem statement?_returned (text : List Char) :
    statement? (returned text) =
      (statement? text).map fun found => (found.1, returned found.2) := by
  have feedOutside : isPathChar '\n' = false := by decide
  have returnOutside : isPathChar '\r' = false := by decide
  rw [statement?, statement?, after?_returned (by decide) (by decide)]
  cases after? "import ".toList text with
  | none => rfl
  | some afterWord =>
      simp only [Option.map_some, takeWhile_returned feedOutside returnOutside,
        dropWhile_returned (returnOutside.trans feedOutside.symm), trimLeft_returned]
      cases afterWord.takeWhile isPathChar with
      | nil => rfl
      | cons first others =>
          cases trimLeft (afterWord.dropWhile isPathChar) with
          | nil => rfl
          | cons mark rest =>
              by_cases feed : mark = '\n'
              · subst feed
                rfl
              · rw [returned_cons feed]
                by_cases closing : mark = ';'
                · subst closing
                  rfl
                · simp [closing]

theorem paths_returned (text : List Char) : paths (returned text) = paths text := by
  have alike : OnBlankLines (ReadsAlike statement? id) true text := by
    intro before here _ _
    rw [ReadsAlike, statement?_returned]
    cases statement? here with
    | none => exact .none
    | some found => exact .some ⟨rfl, Or.inl rfl⟩
  have sameValues := map_occurrences_returned statement?_isStatement statement?_shortens alike
  rwa [List.map_id, List.map_id] at sameValues

end Java

namespace Python

/-! ## Pieces of statements -/

/-- White space and what follows it are the same, whichever way lines end. -/
theorem trimLeft_afterOneBlank?_returned (text : List Char) :
    (afterOneBlank? (returned text)).map trimLeft =
      ((afterOneBlank? text).map trimLeft).map returned := by
  cases text with
  | nil => rfl
  | cons character later =>
      by_cases feed : character = '\n'
      · subst feed
        have there : afterOneBlank? (returned ('\n' :: later)) = some ('\n' :: returned later) :=
          rfl
        have here : afterOneBlank? ('\n' :: later) = some later := rfl
        have trimmed : trimLeft ('\n' :: returned later) = trimLeft (returned later) := rfl
        rw [there, here, Option.map_some, Option.map_some, Option.map_some, trimmed,
          trimLeft_returned]
      · rw [returned_cons feed, afterOneBlank?, afterOneBlank?]
        split
        · rw [Option.map_some, Option.map_some, Option.map_some, trimLeft_returned]
        · rfl

/-- The last line of a text is the same, and every other one ends with a carriage return. -/
theorem line_returned (text : List Char) :
    (∃ first, line text = (first, []) ∧ line (returned text) = (first, [])) ∨
      ∃ first below, line text = (first, '\n' :: below) ∧
        line (returned text) = (first ++ ['\r'], '\n' :: returned below) := by
  induction text using line_induction with
  | last text oneLine =>
      rw [returned_of_oneLine oneLine]
      exact Or.inl ⟨text, line_of_not_mem oneLine, line_of_not_mem oneLine⟩
  | next first below oneLine _ =>
      have oneLineThere : '\n' ∉ first ++ ['\r'] := by simpa using oneLine
      rw [returned_line oneLine]
      exact Or.inr ⟨first, below, line_run oneLine below, line_run oneLineThere _⟩

/-- A carriage return behind a list of paths adds nothing. -/
theorem listed_append_return (list : List Char) : listed (list ++ ['\r']) = listed list := by
  by_cases comment : '#' ∈ list
  · obtain ⟨before, after, rfl⟩ := List.append_of_mem comment
    have outside : (fun character : Char => decide (character ≠ '#')) '#' = false := by decide
    rw [listed, listed, upTo, upTo, List.append_assoc, List.cons_append,
      takeWhile_append_stop outside, takeWhile_append_stop outside]
  · have whole {text : List Char} (noComment : '#' ∉ text) : upTo '#' text = text := by
      refine List.takeWhile_eq_self_iff.2 fun character member => ?_
      simpa using fun same : character = '#' => noComment (same ▸ member)
    have different : '\r' ≠ ',' := by decide
    obtain ⟨front, last, pieces, piecesThere⟩ := exists_cut_concat different list
    rw [listed, listed, whole comment, whole (by simpa using comment), pieces, piecesThere,
      List.filterMap_append, List.filterMap_append, List.filterMap_cons, List.filterMap_cons,
      firstToken?_concat_blank (by decide)]

/-! ## Plain imports -/

theorem importList?_eq (text : List Char) :
    importList? text = (after? "import".toList text).bind fun afterWord =>
      ((afterOneBlank? afterWord).map trimLeft).bind fun start =>
        if start = [] then none else some (line start) := by
  rw [importList?]
  cases after? "import".toList text with
  | none => rfl
  | some afterWord =>
      cases afterWord with
      | nil => rfl
      | cons character rest =>
          rw [Option.bind_some, afterOneBlank?]
          by_cases blank : isBlank character = true
          · simp only [blank, if_true, Option.map_some, Option.bind_some]
            cases trimLeft rest <;> rfl
          · simp [blank]

/-- Between the word and the list white space may be of any kind, and behind the list it is
overlooked. -/
theorem importList?_readsAlike (text : List Char) : ReadsAlike importList? listed text := by
  rw [ReadsAlike, importList?_eq, importList?_eq, after?_returned (by decide) (by decide)]
  cases after? "import".toList text with
  | none => exact .none
  | some afterWord =>
      rw [Option.map_some, Option.bind_some, Option.bind_some, trimLeft_afterOneBlank?_returned]
      cases (afterOneBlank? afterWord).map trimLeft with
      | none => exact .none
      | some start =>
          simp only [Option.map_some, Option.bind_some, returned_eq_nil_iff]
          split
          · exact .none
          · rcases line_returned start with ⟨list, here, there⟩ | ⟨list, below, here, there⟩
            · rw [here, there]
              exact .some ⟨rfl, Or.inl rfl⟩
            · rw [here, there]
              exact .some ⟨listed_append_return list, Or.inr rfl⟩

theorem listed_importLists_returned (text : List Char) :
    (importLists (returned text)).flatMap listed = (importLists text).flatMap listed := by
  have sameValues : (importLists (returned text)).map listed = (importLists text).map listed :=
    map_occurrences_returned importList?_isStatement importList?_shortens
      fun _ here _ _ => importList?_readsAlike here
  rw [List.flatMap_def, List.flatMap_def, sameValues]

/-! ## Imports of names -/

/-- What stands behind a path is read by the end of a line. -/
inductive ReadByLineEnd : List Char → Prop
  /-- A line feed is taken for the blank before or behind the word, though names follow. -/
  | feedForBlank {before behind : Char} {names : List Char} (beforeBlank : isBlank before = true)
      (behindBlank : isBlank behind = true) (feed : before = '\n' ∨ behind = '\n')
      (named : (line names).1 ≠ []) :
      ReadByLineEnd (before :: ("import".toList ++ behind :: names))
  /-- The line ends where names should start, so that a carriage return would stand there. -/
  | endForNames {before behind : Char} {below : List Char} (beforeBlank : isBlank before = true)
      (behindBlank : isBlank behind = true) (beforeInLine : before ≠ '\n')
      (behindInLine : behind ≠ '\n') :
      ReadByLineEnd (before :: ("import".toList ++ behind :: '\n' :: below))

theorem ReadByLineEnd.stops {text : List Char} (byLineEnd : ReadByLineEnd text) :
    StopsBefore isPathChar text := by
  cases byLineEnd with
  | feedForBlank beforeBlank => exact stopsBefore_of_isBlank beforeBlank _
  | endForNames beforeBlank => exact stopsBefore_of_isBlank beforeBlank _

/-- A `from` statement that hangs on the end of a line. -/
def HangsOnLineEnd (text : List Char) : Prop :=
  ∃ gap path behind, text = "from".toList ++ (gap ++ (path ++ behind)) ∧ IsGap gap ∧ path ≠ [] ∧
    (∀ character ∈ path, isPathChar character = true) ∧ ReadByLineEnd behind

/-- The names behind one blank, the word and another blank. -/
theorem names?_written {before behind : Char} {names : List Char}
    (beforeBlank : isBlank before = true) (behindBlank : isBlank behind = true) :
    names? (before :: ("import".toList ++ behind :: names)) =
      if (line names).1 = [] then none else some (line names).2 := by
  have one {space : Char} {rest : List Char} (blank : isBlank space = true) :
      afterOneBlank? (space :: rest) = some rest := if_pos blank
  simp only [names?, one beforeBlank, after?_append, one behindBlank, Option.bind_eq_bind,
    Option.bind_some]
  rcases line names with ⟨_ | _, _⟩ <;> rfl

theorem names?_returned_of_feed {before behind : Char} {names : List Char}
    (beforeBlank : isBlank before = true) (feed : before = '\n' ∨ behind = '\n') :
    names? (returned (before :: ("import".toList ++ behind :: names))) = none := by
  have noFeed : '\n' ∉ "import".toList := by decide
  by_cases beforeFeed : before = '\n'
  · rw [beforeFeed]
    rfl
  · obtain rfl := feed.resolve_left beforeFeed
    have nothing : (line ('\n' :: returned names)).1 = [] := rfl
    rw [returned_cons beforeFeed, returned_append, returned_of_oneLine noFeed, returned_feed,
      names?_written beforeBlank (by decide), if_pos nothing]

theorem names?_returned_of_blanks {before behind : Char} {names : List Char}
    (beforeBlank : isBlank before = true) (behindBlank : isBlank behind = true)
    (beforeInLine : before ≠ '\n') (behindInLine : behind ≠ '\n') :
    names? (returned (before :: ("import".toList ++ behind :: names))) =
      if (line (returned names)).1 = [] then none else some (line (returned names)).2 := by
  have noFeed : '\n' ∉ "import".toList := by decide
  rw [returned_cons beforeInLine, returned_append, returned_of_oneLine noFeed,
    returned_cons behindInLine, names?_written beforeBlank behindBlank]

/-- What reads names of a returned text has the blanks and the word in the text itself. -/
theorem exists_blanks_of_names?_returned {text after : List Char}
    (read : names? (returned text) = some after) :
    ∃ before behind names, text = before :: ("import".toList ++ behind :: names) ∧
      isBlank before = true ∧ isBlank behind = true := by
  obtain ⟨before, behind, names, whole, beforeBlank, behindBlank, -⟩ := names?_eq_some_iff.1 read
  cases text with
  | nil => cases whole
  | cons first later =>
      by_cases feed : first = '\n'
      · rw [feed, returned_feed] at whole
        exact absurd (congrArg (fun text => text.tail.head?) whole) (by simp)
      · rw [returned_cons feed] at whole
        obtain ⟨rfl, word⟩ := List.cons.inj whole
        have found : after? "import".toList (returned later) = _ :=
          after?_returned (by decide) (by decide) later
        rw [word, after?_append, eq_comm, Option.map_eq_some_iff] at found
        obtain ⟨rest, wordHere, restThere⟩ := found
        obtain rfl := eq_append_of_after? wordHere
        cases rest with
        | nil => cases restThere
        | cons second others =>
            refine ⟨first, second, others, rfl, beforeBlank, ?_⟩
            by_cases feedToo : second = '\n'
            · rw [feedToo]
              decide
            · rw [returned_cons feedToo] at restThere
              rwa [(List.cons.inj restThere).1]

theorem ReadByLineEnd.isSome_ne {text : List Char} (byLineEnd : ReadByLineEnd text) :
    (names? (returned text)).isSome ≠ (names? text).isSome := by
  cases byLineEnd with
  | feedForBlank beforeBlank behindBlank feed named =>
      rw [names?_written beforeBlank behindBlank, if_neg named,
        names?_returned_of_feed beforeBlank feed]
      exact Bool.false_ne_true
  | @endForNames before behind below beforeBlank behindBlank beforeInLine behindInLine =>
      have nothing : (line ('\n' :: below)).1 = [] := rfl
      have something : (line (returned ('\n' :: below))).1 ≠ [] := List.cons_ne_nil '\r' []
      rw [names?_written beforeBlank behindBlank, if_pos nothing,
        names?_returned_of_blanks beforeBlank behindBlank beforeInLine behindInLine,
        if_neg something]
      exact Bool.false_ne_true.symm

/-- Names are read alike unless the end of a line has a part in it. -/
theorem names?_alike {text : List Char} (own : ¬ ReadByLineEnd text) :
    Option.Rel SameLeft (names? text) (names? (returned text)) := by
  by_cases shape : ∃ before behind names, text = before :: ("import".toList ++ behind :: names) ∧
      isBlank before = true ∧ isBlank behind = true
  · obtain ⟨before, behind, names, rfl, beforeBlank, behindBlank⟩ := shape
    rw [names?_written beforeBlank behindBlank]
    by_cases feed : before = '\n' ∨ behind = '\n'
    · have nothing : (line names).1 = [] := by
        by_contra named
        exact own (.feedForBlank beforeBlank behindBlank feed named)
      rw [if_pos nothing, names?_returned_of_feed beforeBlank feed]
      exact .none
    · rw [not_or] at feed
      rw [names?_returned_of_blanks beforeBlank behindBlank feed.1 feed.2]
      rcases line_returned names with ⟨first, here, there⟩ | ⟨first, below, here, there⟩
      · rw [here, there]
        split
        · exact .none
        · exact .some (Or.inl rfl)
      · have named : first ≠ [] := by
          rintro rfl
          obtain rfl : '\n' :: below = names := append_of_line here
          exact own (.endForNames beforeBlank behindBlank feed.1 feed.2)
        rw [here, there, if_neg named, if_neg (by simp)]
        exact .some (Or.inr rfl)
  · -- Carriage returns make no blanks and no word where there were none.
    have missed : names? text = none := by
      rw [Option.eq_none_iff_forall_ne_some]
      intro after read
      obtain ⟨before, behind, names, whole, beforeBlank, behindBlank, -⟩ :=
        names?_eq_some_iff.1 read
      exact shape ⟨before, behind, names, whole, beforeBlank, behindBlank⟩
    have missedThere : names? (returned text) = none := by
      rw [Option.eq_none_iff_forall_ne_some]
      exact fun after read => shape (exists_blanks_of_names?_returned read)
    rw [missed, missedThere]
    exact .none

theorem pathWithNames?_eq (start : List Char) :
    pathWithNames? start =
      if start.takeWhile isPathChar = [] then none
      else (names? (start.dropWhile isPathChar)).map fun rest =>
        (start.takeWhile isPathChar, rest) := by
  rw [pathWithNames?]
  cases start.takeWhile isPathChar with
  | nil => rfl
  | cons first others => cases names? (start.dropWhile isPathChar) <;> rfl

theorem pathWithNames?_alike {start : List Char}
    (own : ∀ path behind, start = path ++ behind → path ≠ [] →
      (∀ character ∈ path, isPathChar character = true) → ¬ ReadByLineEnd behind) :
    Option.Rel (SameRead id) (pathWithNames? start) (pathWithNames? (returned start)) := by
  have feedOutside : isPathChar '\n' = false := by decide
  have returnOutside : isPathChar '\r' = false := by decide
  rw [pathWithNames?_eq, pathWithNames?_eq, takeWhile_returned feedOutside returnOutside,
    dropWhile_returned (returnOutside.trans feedOutside.symm)]
  split
  next => exact .none
  next nonempty =>
    have behind := names?_alike (own _ _ List.takeWhile_append_dropWhile.symm nonempty
      fun _ member => List.mem_takeWhile_imp member)
    generalize names? (start.dropWhile isPathChar) = after at behind ⊢
    generalize names? (returned (start.dropWhile isPathChar)) = afterThere at behind ⊢
    cases behind with
    | none => exact .none
    | some left => exact .some ⟨rfl, left⟩

theorem sourcePath?_eq_bind (text : List Char) :
    sourcePath? text = (after? "from".toList text).bind fun afterWord =>
      ((afterOneBlank? afterWord).map trimLeft).bind pathWithNames? := by
  simp only [sourcePath?_eq, Option.bind_map, Function.comp_def]

theorem isGap_returned {gap : List Char} (isGap : IsGap gap) : IsGap (returned gap) := by
  refine ⟨fun nothing => isGap.nonempty (returned_eq_nil_iff.1 nothing), ?_⟩
  have trimmed : trimLeft (returned gap) = [] := by
    rw [trimLeft_returned, trimLeft_eq_nil isGap.blank, returned_nil]
  exact List.dropWhile_eq_nil_iff.1 trimmed

/-- An import of names is read alike unless it hangs on the end of a line. -/
theorem sourcePath?_readsAlike {text : List Char} (own : ¬ HangsOnLineEnd text) :
    ReadsAlike sourcePath? id text := by
  rw [ReadsAlike, sourcePath?_eq_bind, sourcePath?_eq_bind,
    after?_returned (by decide) (by decide)]
  cases word : after? "from".toList text with
  | none => exact .none
  | some afterWord =>
      obtain rfl := eq_append_of_after? word
      rw [Option.map_some, Option.bind_some, Option.bind_some, trimLeft_afterOneBlank?_returned]
      cases one : afterOneBlank? afterWord with
      | none => exact .none
      | some spaced =>
          obtain ⟨space, rfl, blank⟩ := afterOneBlank?_eq_some_iff.1 one
          obtain ⟨gap, whole, isGap⟩ := exists_gap blank spaced
          refine pathWithNames?_alike fun path behind split nonempty inPath byLineEnd => own ?_
          exact ⟨gap, path, behind, by rw [whole, split], isGap, nonempty, inPath, byLineEnd⟩

/-- A statement hangs on the end of a line exactly when it is one with carriage returns or without
them, and not both. -/
theorem hangsOnLineEnd_iff {text : List Char} :
    HangsOnLineEnd text ↔ (sourcePath? (returned text)).isSome ≠ (sourcePath? text).isSome := by
  constructor
  · rintro ⟨gap, path, behind, rfl, isGap, nonempty, inPath, byLineEnd⟩
    have noFeed : '\n' ∉ "from".toList := by decide
    have pathInLine : '\n' ∉ path := fun member => absurd (inPath '\n' member) (by decide)
    rw [returned_append, returned_append, returned_append, returned_of_oneLine noFeed,
      returned_of_oneLine pathInLine, sourcePath?_written isGap nonempty inPath byLineEnd.stops,
      sourcePath?_written (isGap_returned isGap) nonempty inPath
        (byLineEnd.stops.returned (by decide)), Option.isSome_map, Option.isSome_map]
    exact byLineEnd.isSome_ne
  · intro differ
    by_contra own
    exact differ (sourcePath?_readsAlike own).isSome_eq

theorem sourcePaths_returned {text : List Char}
    (own : OnBlankLines (fun here => ¬ HangsOnLineEnd here) true text) :
    sourcePaths (returned text) = sourcePaths text := by
  have sameValues : (sourcePaths (returned text)).map id = (sourcePaths text).map id :=
    map_occurrences_returned sourcePath?_isStatement sourcePath?_shortens
      fun before here split blank => sourcePath?_readsAlike (own before here split blank)
  rwa [List.map_id, List.map_id] at sameValues

end Python

end LibraryScout.Imports
