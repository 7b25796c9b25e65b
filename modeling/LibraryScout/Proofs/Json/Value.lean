import LibraryScout.Proofs.Json.Members
import LibraryScout.Proofs.Json.ReadBack

/-!
Contract: JSON values are read back from their texts.

Owns:
- `Within`, the values that a reader can come to when only so many arrays and objects may be open,
  with numbers of some kind;
- that such a value, if its numbers are whole, is read back from its text in any layout.

Does not own: that reading comes to such values only.
-/

namespace LibraryScout.Json

open LibraryScout.Text (StopsBefore)

/-- Values nested at most so deep, with numbers that are allowed and members with distinct names. -/
inductive Within (allowed : Number → Prop) : (depth : Nat) → Json → Prop where
  | null {depth : Nat} : Within allowed depth .null
  | bool {depth : Nat} (value : Bool) : Within allowed depth (.bool value)
  | number {depth : Nat} {value : Number} (isAllowed : allowed value) :
      Within allowed depth (.number value)
  | string {depth : Nat} (value : String) : Within allowed depth (.string value)
  | array {depth : Nat} {items : List Json} (each : ∀ item ∈ items, Within allowed depth item) :
      Within allowed (depth + 1) (.array items)
  | object {depth : Nat} {members : Members}
      (each : ∀ member ∈ members, Within allowed depth member.2)
      (distinct : members.names.Nodup) : Within allowed (depth + 1) (.object members)

/-- Such values, of which all numbers are whole. -/
abbrev Whole : (depth : Nat) → Json → Prop :=
  Within Number.IsWhole

theorem whole_strings (depth : Nat) (texts : List String) : Whole (depth + 1) (strings texts) := by
  refine .array fun item member => ?_
  obtain ⟨text, -, rfl⟩ := List.mem_map.1 member
  exact .string text

/-! ## How texts open -/

theorem opens_cons {first : Char} (others : List Char) (noSpace : isSpace first = false)
    (notList : first ≠ ']') (notObject : first ≠ '\x7d') : Opens (first :: others) :=
  ⟨first, others, rfl, noSpace, notList, notObject⟩

theorem opens_literal (text : String) : Opens (literal text) :=
  opens_cons _ (by decide) (by decide) (by decide)

/-- The characters with which a number starts. -/
def StartsNumber (character : Char) : Prop :=
  character = '-' ∨ isDigit character = true

instance (character : Char) : Decidable (StartsNumber character) := by
  unfold StartsNumber
  infer_instance

theorem StartsNumber.ne {first mark : Char} (starts : StartsNumber first)
    (other : ¬ StartsNumber mark) : first ≠ mark := by
  rintro rfl
  exact other starts

theorem StartsNumber.opens {first : Char} (starts : StartsNumber first) (others : List Char) :
    Opens (first :: others) := by
  refine opens_cons others ?_ (starts.ne (by decide)) (starts.ne (by decide))
  rw [Bool.eq_false_iff]
  intro space
  simp only [isSpace, Bool.or_eq_true, decide_eq_true_eq] at space
  rcases space with ((rfl | rfl) | rfl) | rfl <;> exact absurd starts (by decide)

theorem exists_startsNumber {number : Number} (whole : number.IsWhole) :
    ∃ first others, number.text.toList = first :: others ∧ StartsNumber first := by
  cases number with
  | float value =>
      obtain rfl : value = ⟨true, 0, -1074⟩ := whole
      exact ⟨'-', ['0', '.', '0'], by decide +kernel, .inl rfl⟩
  | integer value =>
      cases value with
      | ofNat natural =>
          have written := text_natural natural
          cases digits : Nat.toDigits 10 natural with
          | nil => exact absurd digits Nat.toDigits_ne_nil
          | cons first later =>
              have digit : first.isDigit = true :=
                Nat.isDigit_of_mem_toDigits (by decide) (by decide) (digits ▸ List.mem_cons_self)
              exact ⟨first, later, written.trans digits, .inr (isDigit_eq first ▸ digit)⟩
      | negSucc predecessor => exact ⟨'-', _, text_negative predecessor, .inl rfl⟩

theorem opens_chars (layout : Layout) (level : Nat) {depth : Nat} {value : Json}
    (whole : Whole depth value) : Opens (layout.chars level value) := by
  cases whole with
  | null => exact opens_cons _ (by decide) (by decide) (by decide)
  | bool value => cases value <;> exact opens_cons _ (by decide) (by decide) (by decide)
  | number isWhole =>
      obtain ⟨first, others, written, starts⟩ := exists_startsNumber isWhole
      rw [Layout.chars, written]
      exact starts.opens others
  | string value => exact opens_literal value
  | array each => exact opens_cons _ (by decide) (by decide) (by decide)
  | object each distinct => exact opens_cons _ (by decide) (by decide) (by decide)

/-! ## Reading back -/

theorem skipSpace_skipSpace (text : List Char) : skipSpace (skipSpace text) = skipSpace text :=
  Text.dropWhile_of_stopsBefore (Text.stopsBefore_dropWhile isSpace text)

theorem value_skipSpace (depth : Nat) (text : List Char) :
    Json.value depth text = Json.value depth (skipSpace text) := by
  unfold Json.value
  rw [skipSpace_skipSpace]

theorem skipSpace_of_opens {text : List Char} (opens : Opens text) (rest : List Char) :
    skipSpace (text ++ rest) = text ++ rest :=
  Text.dropWhile_of_stopsBefore (opens.stops rest)

/-- A text that opens no array and no object is read as a scalar. -/
theorem value_cons (depth : Nat) {first : Char} {others : List Char}
    (opens : Opens (first :: others)) (noArray : first ≠ '[') (noObject : first ≠ '\x7b') :
    Json.value depth (first :: others) = scalar (first :: others) := by
  have bare := skipSpace_of_opens opens []
  rw [List.append_nil] at bare
  unfold Json.value
  rw [bare]
  split
  · rename_i array
    exact absurd (List.cons.inj array).1 noArray
  · rename_i object
    exact absurd (List.cons.inj object).1 noObject
  · rfl

theorem value_string (depth : Nat) (text : String) (rest : List Char) :
    Json.value depth (literal text ++ rest) = .ok (.string text, rest) := by
  rw [literal_append, value_cons depth (opens_cons _ (by decide) (by decide) (by decide))
    (by decide) (by decide)]
  simp [scalar, stringLiteral_escaped, Except.map]

theorem value_number (depth : Nat) {number : Number} (whole : number.IsWhole) {rest : List Char}
    (stops : StopsBefore continuesNumber rest) :
    Json.value depth (number.text.toList ++ rest) = .ok (.number number, rest) := by
  have read := numberLiteral_text whole stops
  obtain ⟨first, others, written, starts⟩ := exists_startsNumber whole
  rw [written, List.cons_append] at read
  rw [written, List.cons_append,
    value_cons depth (starts.opens _) (starts.ne (by decide)) (starts.ne (by decide)), scalar,
    read]
  · have either : (decide (first = '-') || isDigit first) = true := by
      simpa [StartsNumber] using starts
    rw [if_pos either]
    rfl
  all_goals exact starts.ne (by decide)

/-- A value that reading can come to is read back, if all its numbers are whole. -/
theorem reads_of_whole {depth : Nat} {value : Json} (whole : Whole depth value) (layout : Layout)
    (level : Nat) : Reads (Json.value depth) (layout.chars level value) value := by
  refine Reads.of_skipSpace (opens_chars layout level whole) (value_skipSpace depth) ?_
  induction whole generalizing level with
  | null =>
      intro rest _
      exact value_cons _ (opens_cons _ (by decide) (by decide) (by decide)) (by decide) (by decide)
  | bool value =>
      intro rest _
      cases value
      all_goals
        exact value_cons _ (opens_cons _ (by decide) (by decide) (by decide)) (by decide)
          (by decide)
  | number isWhole =>
      intro rest stops
      exact value_number _ isWhole stops
  | string value =>
      intro rest _
      exact value_string _ value rest
  | @array depth items each inductionHypothesis =>
      intro rest _
      have reads : ∀ item ∈ items,
          Reads (Json.value depth) (layout.chars (level + 1) item) item := fun item member =>
        Reads.of_skipSpace (opens_chars layout _ (each item member)) (value_skipSpace depth)
          (inductionHypothesis item member (level + 1))
      have body := listBody_body layout level reads
        (fun item member => opens_chars layout _ (each item member)) rest
      have opened : ∀ input, Json.value (depth + 1) ('[' :: input) =
          (listBody (Json.value depth) input).map fun found => (.array found.1, found.2) :=
        fun _ => rfl
      rw [Layout.chars, Layout.itemTexts_eq, List.cons_append, List.append_assoc,
        List.singleton_append, opened, body]
      rfl
  | @object depth members each distinct inductionHypothesis =>
      intro rest _
      have reads : ∀ member ∈ members,
          Reads (Json.value depth) (layout.chars (level + 1) member.2) member.2 :=
        fun member isMember =>
          Reads.of_skipSpace (opens_chars layout _ (each member isMember)) (value_skipSpace depth)
            (inductionHypothesis member isMember (level + 1))
      have body := objectBody_body layout level reads rest
      have opened : ∀ input, Json.value (depth + 1) ('\x7b' :: input) =
          (objectBody (Json.value depth) input).map fun found =>
            (.object (Members.ofPairs found.1), found.2) :=
        fun _ => rfl
      rw [Layout.chars, Layout.memberTexts_eq, List.cons_append, List.append_assoc,
        List.singleton_append, opened, body]
      simp [Except.map, Members.ofPairs_of_nodup distinct]

end LibraryScout.Json
