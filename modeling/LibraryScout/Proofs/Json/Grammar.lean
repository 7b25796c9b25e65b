import LibraryScout.Proofs.Json.Framed

/-!
Contract: the texts of JSON values as a grammar, and that they are what is read.

Owns:
- `Numeral`, a text of the grammar of numbers with the number that it is read as, and that whatever
  is read as a number is a numeral, whatever stands behind it;
- `Writes`, the texts of a value: every spelling of its strings and numbers, white space wherever
  it may stand, and every member of an object in its place, repetitions included;
- `merged`, the value without repetitions: in every object a repeated name keeps its first place
  and takes its last value;
- `parse_eq_ok_iff`, that reading accepts exactly these texts and comes to the merged value.

Does not own: the grammar of numbers, and which numbers are out of range.
-/

namespace LibraryScout.Json

open LibraryScout.Text (StopsBefore)

/-! ## Numerals -/

/-- The texts of a number: those of the grammar that are read as this number. -/
structure Numeral (number : Number) (text : List Char) : Prop where
  shape : IsSigned text
  value : numberLiteral text = .ok (number, [])

theorem Numeral.read {number : Number} {text : List Char} (numeral : Numeral number text)
    {rest : List Char} (stops : StopsBefore continuesNumber rest) :
    numberLiteral (text ++ rest) = .ok (number, rest) := by
  obtain ⟨used, whole, -, again⟩ := framed_numberLiteral text number [] numeral.value
  rw [List.append_nil] at whole
  rw [whole]
  exact again rest stops

theorem exists_numeral {text rest : List Char} {number : Number}
    (read : numberLiteral text = .ok (number, rest)) :
    ∃ used, text = used ++ rest ∧ Numeral number used := by
  obtain ⟨used, whole, shape, again⟩ := framed_numberLiteral text number rest read
  have alone := again [] (by simp [StopsBefore])
  rw [List.append_nil] at alone
  exact ⟨used, whole, shape, alone⟩

theorem IsUnsigned.starts {text : List Char} (unsigned : IsUnsigned text) :
    ∃ first later, text = first :: later ∧ isDigit first = true := by
  cases unsigned with
  | zero fraction => exact ⟨'0', _, rfl, by decide⟩
  | digits digit nonzero inside fraction => exact ⟨_, _, rfl, digit⟩

theorem Numeral.starts {number : Number} {text : List Char} (numeral : Numeral number text) :
    ∃ first later, text = first :: later ∧ StartsNumber first := by
  cases numeral.shape with
  | plain unsigned =>
      obtain ⟨first, later, whole, digit⟩ := unsigned.starts
      exact ⟨first, later, whole, .inr digit⟩
  | negative unsigned => exact ⟨'-', _, rfl, .inl rfl⟩

/-! ## The grammar -/

/-- The texts of a value with at most so many arrays and objects open at once. -/
inductive Writes : (depth : Nat) → Json → List Char → Prop where
  | null {depth : Nat} : Writes depth .null "null".toList
  | boolTrue {depth : Nat} : Writes depth (.bool true) "true".toList
  | boolFalse {depth : Nat} : Writes depth (.bool false) "false".toList
  | number {depth : Nat} {value : Number} {text : List Char} (numeral : Numeral value text) :
      Writes depth (.number value) text
  | string {depth : Nat} {value : String} {body : List Char}
      (spells : Spells value.toList body) : Writes depth (.string value) ('"' :: (body ++ ['"']))
  | array {depth : Nat} {parts : List (Json × List Char)} {body : List Char}
      (separated : Separated (parts.map Prod.snd) body)
      (each : ∀ part ∈ parts, Writes depth part.1 part.2) :
      Writes (depth + 1) (.array (parts.map Prod.fst)) ('[' :: (body ++ [']']))
  | object {depth : Nat} {parts : List (MemberText × Json)} {body : List Char}
      (wellFormed : ∀ part ∈ parts, part.1.WellFormed)
      (separated : Separated (parts.map fun part => part.1.chars) body)
      (each : ∀ part ∈ parts, Writes depth part.2 part.1.valueText) :
      Writes (depth + 1) (.object (parts.map fun part => (part.1.name, part.2)))
        ('\x7b' :: (body ++ ['\x7d']))

/-- A text that writes a value, with white space around it. -/
def IsText (value : Json) (text : String) : Prop :=
  ∃ before part behind, text.toList = before ++ (part ++ behind) ∧ Blank before ∧ Blank behind ∧
    Writes depthLimit value part

mutual

/-- The value without repeated names. -/
def merged : Json → Json
  | .array items => .array (mergedItems items)
  | .object members => .object (Members.ofPairs (mergedMembers members))
  | value => value

def mergedItems : List Json → List Json
  | [] => []
  | item :: others => merged item :: mergedItems others

def mergedMembers : List (String × Json) → List (String × Json)
  | [] => []
  | (name, value) :: others => (name, merged value) :: mergedMembers others

end

theorem mergedItems_eq (items : List Json) : mergedItems items = items.map merged := by
  induction items with
  | nil => rfl
  | cons item others inductionHypothesis =>
      rw [mergedItems, inductionHypothesis, List.map_cons]

theorem mergedMembers_eq (members : List (String × Json)) :
    mergedMembers members = members.map fun member => (member.1, merged member.2) := by
  induction members with
  | nil => rfl
  | cons member others inductionHypothesis =>
      rw [mergedMembers, inductionHypothesis, List.map_cons]

/-! ## What is written is read -/

theorem word_eq_ok_iff {expected text rest : List Char} :
    word expected text = .ok rest ↔ text = expected ++ rest := by
  induction expected generalizing text with
  | nil => simp [word]
  | cons letter letters inductionHypothesis =>
      cases text with
      | nil => simp [word, stop]
      | cons character later =>
          rw [word]
          split
          next same => simp [same, inductionHypothesis]
          next other => simp [stopAt, other]

theorem Writes.opens {depth : Nat} {value : Json} {text : List Char}
    (writes : Writes depth value text) : Opens text := by
  cases writes with
  | number numeral =>
      obtain ⟨first, later, rfl, starts⟩ := numeral.starts
      exact starts.opens later
  | null | boolTrue | boolFalse | string | array | object =>
      exact opens_cons _ (by decide) (by decide) (by decide)

/-- A word is read as a scalar. -/
theorem value_of_word (depth : Nat) {first : Char} {letters : List Char} {value : Json}
    (opens : Opens (first :: letters)) (noArray : first ≠ '[') (noObject : first ≠ '\x7b')
    (read : ∀ rest, scalar (first :: rest) = (word letters rest).map fun after => (value, after))
    (rest : List Char) : Json.value depth (first :: letters ++ rest) = .ok (value, rest) := by
  obtain ⟨_, _, same, noSpace, notList, notObject⟩ := opens
  obtain ⟨rfl, -⟩ := List.cons.inj same
  rw [List.cons_append, value_cons depth (opens_cons _ noSpace notList notObject) noArray noObject,
    read, word_eq_ok_iff.2 rfl]
  rfl

theorem value_of_numeral (depth : Nat) {number : Number} {text : List Char}
    (numeral : Numeral number text) {rest : List Char}
    (stops : StopsBefore continuesNumber rest) :
    Json.value depth (text ++ rest) = .ok (.number number, rest) := by
  have read := numeral.read stops
  obtain ⟨first, later, rfl, starts⟩ := numeral.starts
  rw [List.cons_append] at read ⊢
  rw [value_cons depth (starts.opens _) (starts.ne (by decide)) (starts.ne (by decide)), scalar,
    read]
  · have either : (decide (first = '-') || isDigit first) = true := by
      simpa [StartsNumber] using starts
    rw [if_pos either]
    rfl
  all_goals exact starts.ne (by decide)

/-- A written value is read, and what is read is the merged value. -/
theorem Writes.reads {depth : Nat} {value : Json} {text : List Char}
    (writes : Writes depth value text) : Reads (Json.value depth) text value.merged := by
  refine Reads.of_skipSpace writes.opens (value_skipSpace depth) ?_
  induction writes with
  | null =>
      intro rest _
      exact value_of_word _ (opens_cons _ (by decide) (by decide) (by decide)) (by decide)
        (by decide) (fun _ => rfl) rest
  | boolTrue =>
      intro rest _
      exact value_of_word _ (opens_cons _ (by decide) (by decide) (by decide)) (by decide)
        (by decide) (fun _ => rfl) rest
  | boolFalse =>
      intro rest _
      exact value_of_word _ (opens_cons _ (by decide) (by decide) (by decide)) (by decide)
        (by decide) (fun _ => rfl) rest
  | number numeral =>
      intro rest stops
      exact value_of_numeral _ numeral stops
  | string spells =>
      intro rest _
      rw [List.cons_append, List.append_assoc, List.singleton_append,
        value_cons _ (opens_cons _ (by decide) (by decide) (by decide)) (by decide) (by decide)]
      simp [scalar, stringLiteral_of_spells spells, Except.map, merged]
  | @array depth parts body separated each inductionHypothesis =>
      intro rest _
      have opened : ∀ input, Json.value (depth + 1) ('[' :: input) =
          (listBody (Json.value depth) input).map fun found => (.array found.1, found.2) :=
        fun _ => rfl
      have readsEach : ∀ part ∈ parts.map fun part => (merged part.1, part.2),
          Reads (Json.value depth) part.2 part.1 := by
        intro part isPart
        obtain ⟨written, isWritten, rfl⟩ := List.mem_map.1 isPart
        exact Reads.of_skipSpace (each written isWritten).opens (value_skipSpace depth)
          (inductionHypothesis written isWritten)
      have opensEach : ∀ part ∈ parts.map fun part => (merged part.1, part.2),
          Opens part.2 := by
        intro part isPart
        obtain ⟨written, isWritten, rfl⟩ := List.mem_map.1 isPart
        exact (each written isWritten).opens
      have whole := listBody_of_separated readsEach opensEach
        (by simpa [List.map_map, Function.comp_def] using separated) rest
      rw [List.cons_append, List.append_assoc, List.singleton_append, opened, whole]
      simp [Except.map, merged, mergedItems_eq]
  | @object depth parts body wellFormed separated each inductionHypothesis =>
      intro rest _
      have opened : ∀ input, Json.value (depth + 1) ('\x7b' :: input) =
          (objectBody (Json.value depth) input).map fun found =>
            (.object (Members.ofPairs found.1), found.2) :=
        fun _ => rfl
      have wellFormedEach : ∀ part ∈ parts.map fun part => (part.1, merged part.2),
          part.1.WellFormed := by
        intro part isPart
        obtain ⟨written, isWritten, rfl⟩ := List.mem_map.1 isPart
        exact wellFormed written isWritten
      have readsEach : ∀ part ∈ parts.map fun part => (part.1, merged part.2),
          Reads (Json.value depth) part.1.valueText part.2 := by
        intro part isPart
        obtain ⟨written, isWritten, rfl⟩ := List.mem_map.1 isPart
        exact Reads.of_skipSpace (each written isWritten).opens (value_skipSpace depth)
          (inductionHypothesis written isWritten)
      have whole := objectBody_of_separated wellFormedEach readsEach
        (by simpa [List.map_map, Function.comp_def] using separated) rest
      rw [List.cons_append, List.append_assoc, List.singleton_append, opened, whole]
      simp [Except.map, merged, mergedMembers_eq, Function.comp_def]

/-! ## What is read was written -/

theorem exists_writes_of_scalar (depth : Nat) {text rest : List Char} {value : Json}
    (read : scalar text = .ok (value, rest)) :
    ∃ part content, text = part ++ rest ∧ Writes depth content part ∧
      value = merged content := by
  unfold scalar at read
  split at read
  · cases read
  · obtain ⟨left, found, same⟩ := exists_of_map_eq_ok read
    cases same
    exact ⟨_, .null, by rw [word_eq_ok_iff.1 found]; rfl, .null, rfl⟩
  · obtain ⟨left, found, same⟩ := exists_of_map_eq_ok read
    cases same
    exact ⟨_, .bool true, by rw [word_eq_ok_iff.1 found]; rfl, .boolTrue, rfl⟩
  · obtain ⟨left, found, same⟩ := exists_of_map_eq_ok read
    cases same
    exact ⟨_, .bool false, by rw [word_eq_ok_iff.1 found]; rfl, .boolFalse, rfl⟩
  · obtain ⟨⟨content, left⟩, found, same⟩ := exists_of_map_eq_ok read
    cases same
    obtain ⟨body, rfl, spells⟩ := exists_spells_of_stringLiteral found
    exact ⟨_, .string content, by simp, .string spells, rfl⟩
  · split at read
    · obtain ⟨⟨number, left⟩, found, same⟩ := exists_of_map_eq_ok read
      cases same
      obtain ⟨part, whole, numeral⟩ := exists_numeral found
      exact ⟨part, .number number, whole, .number numeral, rfl⟩
    · cases read

/-- Whatever is read as a value was written as one, with white space in front of it. -/
theorem finds_value (depth : Nat) : Finds (Json.value depth) merged (Writes depth) := by
  induction depth with
  | zero =>
      intro text value rest read
      obtain ⟨gap, whole, blank⟩ := exists_blank_skipSpace text
      unfold Json.value at read
      split at read
      · cases read
      · cases read
      · obtain ⟨part, content, split, writes, rfl⟩ := exists_writes_of_scalar 0 read
        exact ⟨gap, part, content, by rw [← split, ← whole], blank, writes, rfl⟩
  | succ depth inductionHypothesis =>
      intro text value rest read
      obtain ⟨gap, whole, blank⟩ := exists_blank_skipSpace text
      unfold Json.value at read
      split at read
      next input opened =>
        obtain ⟨⟨values, left⟩, found, same⟩ := exists_of_map_eq_ok read
        cases same
        obtain ⟨parts, body, rfl, separated, each, rfl⟩ :=
          exists_separated_of_listBody inductionHypothesis found
        rw [opened] at whole
        refine ⟨gap, _, _, by rw [whole]; simp, blank, .array separated each, ?_⟩
        simp [merged, mergedItems_eq]
      next input opened =>
        obtain ⟨⟨pairs, left⟩, found, same⟩ := exists_of_map_eq_ok read
        cases same
        obtain ⟨parts, body, rfl, separated, wellFormed, each, rfl⟩ :=
          exists_separated_of_objectBody inductionHypothesis found
        rw [opened] at whole
        refine ⟨gap, _, _, by rw [whole]; simp, blank, .object wellFormed separated each, ?_⟩
        simp [merged, mergedMembers_eq, Function.comp_def]
      · obtain ⟨part, content, split, writes, rfl⟩ := exists_writes_of_scalar (depth + 1) read
        exact ⟨gap, part, content, by rw [← split, ← whole], blank, writes, rfl⟩

/-! ## Whole texts -/

theorem Blank.stops {gap : List Char} (blank : Blank gap) : StopsBefore continuesNumber gap := by
  intro character first
  cases gap with
  | nil => cases first
  | cons space others =>
      obtain rfl := Option.some.inj first
      exact not_continuesNumber_of_isSpace (blank _ List.mem_cons_self)

theorem skipSpace_of_blank {gap : List Char} (blank : Blank gap) : skipSpace gap = [] :=
  List.dropWhile_eq_nil_iff.2 blank

theorem ended_eq_ok_iff {text : List Char} : ended text = .ok () ↔ Blank text := by
  constructor
  · intro read
    unfold ended at read
    split at read
    next nothing => exact List.dropWhile_eq_nil_iff.1 nothing
    next => cases read
  · intro blank
    rw [ended, skipSpace_of_blank blank]

/-- Reading accepts exactly the texts of the grammar, and comes to the merged value. -/
theorem parse_eq_ok_iff {text : String} {value : Json} :
    parse text = .ok value ↔ ∃ content, IsText content text ∧ value = merged content := by
  unfold parse whole
  constructor
  · intro read
    split at read
    · cases read
    next found left here =>
      obtain ⟨⟨⟩, isEnd, rfl⟩ := exists_of_map_eq_ok read
      obtain ⟨before, part, content, whole, blank, writes, rfl⟩ := finds_value _ _ _ _ here
      exact ⟨content, ⟨before, part, left, whole, blank, ended_eq_ok_iff.1 isEnd, writes⟩, rfl⟩
  · rintro ⟨content, ⟨before, part, behind, whole, blankBefore, blankBehind, writes⟩, rfl⟩
    rw [whole, writes.reads before behind blankBefore blankBehind.stops]
    simp only [ended_eq_ok_iff.2 blankBehind]
    rfl

end LibraryScout.Json
