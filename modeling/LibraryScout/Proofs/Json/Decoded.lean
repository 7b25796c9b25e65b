import LibraryScout.Proofs.Json.Decoding
import LibraryScout.Proofs.Json.Reading

/-!
Contract: what decoders come to.

Owns:
- that no value of another type than the expected one is decoded;
- numbers within their bound, optional values, lists and maps;
- records, which have every property that their start has and that each of their fields keeps,
  whether they are read by name or by position;
- variants.

Every decoder stops past what it has read, so that the numbers of the rest are numbers of the text.

Does not own: which texts are decoded at all.
-/

namespace LibraryScout.Json

theorem mismatch_ne_ok {α : Type} (expected : String) (text : List Char)
    (result : α × List Char) : mismatch expected text ≠ .ok result := by
  intro accepted
  unfold mismatch at accepted
  split at accepted
  · cases accepted
  · cases accepted
  · cases accepted
  · split at accepted
    · cases accepted
    · split at accepted <;> cases accepted

/-! ## Plain values -/

section

variable {α : Type} {allowed : Number → Prop} {holds : α → Prop}

theorem text_yields (depth : Nat) : Yields allowed (Decoder.text depth) fun _ => True := by
  intro text _ value rest read
  unfold Decoder.text at read
  split at read
  · rename_i opened
    exact ⟨past_of_skipSpace opened (past_stringLiteral read), trivial⟩
  · exact absurd read (mismatch_ne_ok _ _ _)

theorem bounded_yields (depth : Nat) (largest : Nat) (expected : String) :
    Yields allowed (Decoder.bounded largest expected depth) (· ≤ largest) := by
  intro text _ value rest read
  unfold Decoder.bounded at read
  split at read
  · cases read
  · rename_i opened
    split at read
    · split at read
      · cases read
      · rename_i number
        split at read
        · rename_i bounds
          obtain ⟨rfl, rfl⟩ := Prod.mk.inj (Except.ok.inj read)
          refine ⟨past_of_skipSpace opened (passes_numberLiteral _ _ _ number), ?_⟩
          simp only [Bool.and_eq_true, decide_eq_true_eq] at bounds
          omega
        · cases read
      · cases read
    · exact absurd read (mismatch_ne_ok _ _ _)

theorem past_null {text rest : List Char} (read : word ['u', 'l', 'l'] text = .ok rest) :
    Past ('n' :: text) rest :=
  (past_word (by decide) read).cons (by decide)

theorem optional_yields {inner : Decoder α} {depth : Nat}
    (yields : Yields allowed (inner depth) holds) :
    Yields allowed (Decoder.optional inner depth) fun value? => ∀ value ∈ value?, holds value := by
  intro text numbers value? rest read
  unfold Decoder.optional at read
  split at read
  · rename_i opened
    obtain ⟨_, null, same⟩ := exists_of_map_eq_ok read
    obtain ⟨rfl, rfl⟩ := Prod.mk.inj same
    refine ⟨past_of_skipSpace opened (past_null null), fun value none => ?_⟩
    cases none
  · obtain ⟨⟨held, _⟩, found, same⟩ := exists_of_map_eq_ok read
    obtain ⟨rfl, rfl⟩ := Prod.mk.inj same
    have start := past_skipSpace text
    obtain ⟨past, holdsHeld⟩ := yields _ (numbers.past start) _ _ found
    refine ⟨start.trans past, fun value some => ?_⟩
    obtain rfl := Option.some.inj some
    exact holdsHeld

theorem list_yields {item : Decoder α} {depth : Nat} (yields : Yields allowed (item depth) holds) :
    Yields allowed (Decoder.list item (depth + 1)) fun values =>
      ∀ value ∈ values, holds value := by
  intro text numbers values rest read
  unfold Decoder.list at read
  split at read
  · rename_i opened
    have start := past_of_skipSpace opened (past_tail _ (by decide))
    obtain ⟨past, each⟩ := listBody_yields yields _ (numbers.past start) _ _ read
    exact ⟨start.trans past, each⟩
  · exact absurd read (mismatch_ne_ok _ _ _)

theorem map_yields (depth : Nat) :
    Yields allowed (Decoder.map (depth + 1)) fun members =>
      Within allowed (depth + 1) (.object members) := by
  intro text numbers members rest read
  unfold Decoder.map at read
  split at read
  · rename_i opened
    have start := past_of_skipSpace opened (past_tail _ (by decide))
    obtain ⟨⟨pairs, _⟩, found, same⟩ := exists_of_map_eq_ok read
    obtain ⟨rfl, rfl⟩ := Prod.mk.inj same
    obtain ⟨past, each⟩ := objectBody_yields (value_yields depth) _ (numbers.past start) _ _ found
    exact ⟨start.trans past, within_ofPairs each⟩
  · exact absurd read (mismatch_ne_ok _ _ _)

end

/-! ## Records -/

namespace Shape

variable {β : Type} {shape : Shape β} {depth : Nat} {allowed : Number → Prop} {holds : β → Prop}

/-- Whatever is read for a record changes it in such a way that it keeps a property. -/
def Keeps (allowed : Number → Prop) (read : Reader (β → β)) (holds : β → Prop) : Prop :=
  Yields allowed read fun change => ∀ record, holds record → holds (change record)

theorem positions_yields {fields : List (Field β)}
    (keeps : ∀ field ∈ fields, Keeps allowed (field.read depth) holds) (index : Nat) {record : β}
    (starts : holds record) :
    Yields allowed (shape.positions depth index record fields) holds := by
  induction fields generalizing index record with
  | nil =>
      intro text _ value rest read
      obtain ⟨_, closed, same⟩ := exists_of_map_eq_ok read
      obtain ⟨rfl, rfl⟩ := Prod.mk.inj same
      exact ⟨past_closeList closed, starts⟩
  | cons field later inductionHypothesis =>
      have laterKeep := fun other member => keeps other (List.mem_cons_of_mem field member)
      intro text numbers value rest read
      rw [positions] at read
      split at read
      · cases read
      · split at read
        · cases read
        · exact inductionHypothesis laterKeep _ starts _ numbers _ _ read
      · rename_i next
        split at read
        · cases read
        · rename_i found
          have start := past_nextItem next
          obtain ⟨past, keepsHeld⟩ :=
            keeps field List.mem_cons_self _ (numbers.past start) _ _ found
          have soFar := start.trans past
          obtain ⟨after, held⟩ := inductionHypothesis laterKeep _ (keepsHeld record starts) _
            (numbers.past soFar) _ _ read
          exact ⟨soFar.trans after, held⟩

/-- A member is read by a field of its name, or by the reader for other members. -/
theorem member_keeps (keeps : ∀ field ∈ shape.fields, Keeps allowed (field.read depth) holds)
    (others : ∀ name ∉ shape.fields.map Field.name,
      Keeps allowed (shape.otherMember name depth) holds) (name : String) :
    Keeps allowed (shape.readerFor name depth) holds := by
  unfold readerFor
  cases known : shape.fields.find? fun field => field.name == name with
  | some field => exact keeps field (List.mem_of_find?_eq_some known)
  | none =>
      refine others name fun isName => ?_
      obtain ⟨field, member, same⟩ := List.mem_map.1 isName
      exact List.find?_eq_none.1 known field member (beq_iff_eq.2 same)

theorem named_yields (keeps : ∀ field ∈ shape.fields, Keeps allowed (field.read depth) holds)
    (others : ∀ name ∉ shape.fields.map Field.name,
      Keeps allowed (shape.otherMember name depth) holds)
    (isFirst : Bool) (seen : List String) {record : β} (starts : holds record) (steps : Nat) :
    Yields allowed (shape.named depth isFirst seen record steps) holds := by
  induction steps generalizing isFirst seen record with
  | zero =>
      intro text _ value rest read
      cases read
  | succ steps inductionHypothesis =>
      intro text numbers value rest read
      rw [named] at read
      split at read
      · cases read
      · split at read
        · cases read
        · obtain ⟨_, closed, same⟩ := exists_of_map_eq_ok read
          obtain ⟨rfl, rfl⟩ := Prod.mk.inj same
          exact ⟨past_closeObject closed, starts⟩
      · rename_i name afterName next
        dsimp only at read
        split at read
        · cases read
        · split at read
          · cases read
          · rename_i separated
            split at read
            · cases read
            · rename_i change _ found
              have start := (past_nextMember next).trans (past_colon separated)
              obtain ⟨past, keepsHeld⟩ :=
                member_keeps keeps others name _ (numbers.past start) _ _ found
              have soFar := start.trans past
              obtain ⟨after, held⟩ := inductionHypothesis false _ (keepsHeld record starts) _
                (numbers.past soFar) _ _ read
              exact ⟨soFar.trans after, held⟩

theorem decoder_yields (keeps : ∀ field ∈ shape.fields, Keeps allowed (field.read depth) holds)
    (others : ∀ name ∉ shape.fields.map Field.name,
      Keeps allowed (shape.otherMember name depth) holds)
    {start : β} (starts : holds start) :
    Yields allowed (shape.decoder start (depth + 1)) holds := by
  intro text numbers value rest read
  unfold decoder at read
  split at read
  · rename_i opened
    have start := past_of_skipSpace opened (past_tail _ (by decide))
    obtain ⟨past, held⟩ :=
      named_yields keeps others true [] starts _ _ (numbers.past start) _ _ read
    exact ⟨start.trans past, held⟩
  · rename_i opened
    split at read
    · have start := past_of_skipSpace opened (past_tail _ (by decide))
      obtain ⟨past, held⟩ := positions_yields keeps 0 starts _ (numbers.past start) _ _ read
      exact ⟨start.trans past, held⟩
    · exact absurd read (mismatch_ne_ok _ _ _)
  · exact absurd read (mismatch_ne_ok _ _ _)

/-- Members that are passed over change nothing. -/
theorem otherMember_keeps (passedOver : shape.other = none) (name : String) :
    Keeps allowed (shape.otherMember name depth) holds := by
  intro text _ change rest read
  unfold otherMember at read
  rw [passedOver] at read
  obtain ⟨_, passed, same⟩ := exists_of_map_eq_ok read
  obtain ⟨rfl, rfl⟩ := Prod.mk.inj same
  exact ⟨Skip.past_value passed, fun _ held => held⟩

end Shape

/-! ## Variants -/

section

variable {α : Type} {known : List (String × Payload α)} {allowed : Number → Prop}
  {holds : α → Prop}

/-- The payload of a variant comes to values with a property. -/
def Payload.Yields (allowed : Number → Prop) (depth : Nat) (holds : α → Prop) : Payload α → Prop
  | .unit value => holds value
  | .record read => Json.Yields allowed (read depth) holds

theorem variantName_yields {holds : Payload α → Prop}
    (each : ∀ variant ∈ known, holds variant.2) :
    Yields allowed (Decoder.variantName known) holds := by
  intro text _ payload rest read
  unfold Decoder.variantName at read
  split at read
  · rename_i opened
    split at read
    · cases read
    · rename_i named
      split at read
      · rename_i found
        obtain ⟨rfl, rfl⟩ := Prod.mk.inj (Except.ok.inj read)
        refine ⟨past_of_skipSpace opened (past_stringLiteral named), ?_⟩
        exact each _ (List.mem_of_find?_eq_some found)
      · cases read
  · exact absurd read (mismatch_ne_ok _ _ _)

theorem payload_yields {depth : Nat} {payload : Payload α}
    (yields : payload.Yields allowed depth holds) :
    Yields allowed (Decoder.payload depth payload) holds := by
  cases payload with
  | record read => exact yields
  | unit value =>
      intro text _ result rest read
      unfold Decoder.payload at read
      dsimp only at read
      split at read
      · rename_i opened
        obtain ⟨_, null, same⟩ := exists_of_map_eq_ok read
        obtain ⟨rfl, rfl⟩ := Prod.mk.inj same
        exact ⟨past_of_skipSpace opened (past_null null), yields⟩
      · exact absurd read (mismatch_ne_ok _ _ _)

theorem variant_yields {depth : Nat}
    (each : ∀ variant ∈ known, variant.2.Yields allowed depth holds) :
    Yields allowed (Decoder.variant known (depth + 1)) holds := by
  intro text numbers value rest read
  unfold Decoder.variant at read
  split at read
  · cases read
  · rename_i opened
    split at read
    · cases read
    · rename_i found
      obtain ⟨rfl, rfl⟩ := Prod.mk.inj (Except.ok.inj read)
      have start := past_of_skipSpace opened (Past.refl _)
      obtain ⟨past, held⟩ := variantName_yields each _ (numbers.past start) _ _ found
      exact ⟨start.trans past, held⟩
    · cases read
  · rename_i opened
    dsimp only at read
    split at read
    · cases read
    · rename_i named
      have start := past_of_skipSpace opened (past_tail _ (by decide))
      obtain ⟨pastName, payload⟩ := variantName_yields each _ (numbers.past start) _ _ named
      split at read
      · cases read
      · rename_i separated
        have start := start.trans (pastName.trans (past_colon separated))
        split at read
        · cases read
        · rename_i found
          obtain ⟨past, held⟩ := payload_yields payload _ (numbers.past start) _ _ found
          split at read
          · cases read
          · rename_i closed
            obtain ⟨rfl, rfl⟩ := Prod.mk.inj (Except.ok.inj read)
            have finish := past_of_skipSpace closed (past_tail _ (by decide))
            exact ⟨start.trans (past.trans finish), held⟩
          · cases read
  · cases read

end

end LibraryScout.Json
