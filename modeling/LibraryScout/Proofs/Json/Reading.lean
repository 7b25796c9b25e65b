import LibraryScout.Proofs.Json.Places
import LibraryScout.Proofs.Json.Value

/-!
Contract: what reading can come to.

Owns:
- `NumbersAre`, that all numbers of a text are of some kind;
- `Yields`, that whatever a reader comes to in such a text has a property, with the text read up to
  a place outside of its strings;
- lists and members, which have the properties that their items have;
- that values are read into the depth that was left for them, with numbers of that kind.

Does not own: which texts are read at all.
-/

namespace LibraryScout.Json

/-! ## The numbers of a text -/

/-- The number that stands at a place of a text. -/
def numberAt? (place : List Char) : Option Number :=
  (numberLiteral place).toOption.map Prod.fst

/-- All numbers that stand in a text outside of its strings are allowed. The later digits of a
number count as numbers as well; for whole numbers this makes no difference. -/
def NumbersAre (allowed : Number → Prop) (text : List Char) : Prop :=
  ∀ place ∈ places .outside text, ∀ number ∈ numberAt? place, allowed number

instance (allowed : Number → Prop) [DecidablePred allowed] (text : List Char) :
    Decidable (NumbersAre allowed text) := by
  unfold NumbersAre
  infer_instance

/-- All numbers of a text are whole: integers of 64 bits, signed or unsigned. -/
def HasWholeNumbers (text : String) : Prop :=
  NumbersAre Number.IsWhole text.toList

instance (text : String) : Decidable (HasWholeNumbers text) := by
  unfold HasWholeNumbers
  infer_instance

section

variable {allowed : Number → Prop} {text rest : List Char}

theorem NumbersAre.past (numbers : NumbersAre allowed text) (past : Past text rest) :
    NumbersAre allowed rest :=
  fun place member => numbers place (past.mem_places member)

theorem NumbersAre.numberLiteral {first : Char} {number : Number}
    (numbers : NumbersAre allowed (first :: text))
    (read : numberLiteral (first :: text) = .ok (number, rest)) : allowed number := by
  refine numbers (first :: text) List.mem_cons_self number ?_
  rw [numberAt?, read]
  rfl

end

/-! ## What readers come to -/

/-- Whatever a reader comes to in a text whose numbers are allowed has a property, and the text was
read up to a place outside of its strings. -/
def Yields {α : Type} (allowed : Number → Prop) (read : Reader α) (holds : α → Prop) : Prop :=
  ∀ text, NumbersAre allowed text → ∀ value rest, read text = .ok (value, rest) →
    Past text rest ∧ holds value

section

variable {α β : Type} {allowed : Number → Prop} {read : Reader α}

theorem Yields.imp {holds after : α → Prop} (yields : Yields allowed read holds)
    (keeps : ∀ value, holds value → after value) : Yields allowed read after := by
  intro text numbers value rest found
  obtain ⟨past, held⟩ := yields text numbers value rest found
  exact ⟨past, keeps value held⟩

theorem Yields.map {holds : α → Prop} (yields : Yields allowed read holds) (change : α → β)
    {after : β → Prop} (keeps : ∀ value, holds value → after (change value)) :
    Yields allowed (fun input => (read input).map fun (value, rest) => (change value, rest))
      after := by
  intro text numbers value rest mapped
  obtain ⟨⟨held, left⟩, found, same⟩ := exists_of_map_eq_ok mapped
  obtain ⟨rfl, rfl⟩ := Prod.mk.inj same
  obtain ⟨past, holdsHeld⟩ := yields text numbers held left found
  exact ⟨past, keeps held holdsHeld⟩

end

/-! ## Lists and members -/

section

variable {α : Type} {allowed : Number → Prop} {holds : α → Prop}

theorem items_yields {item : Reader α} (yields : Yields allowed item holds) (isFirst : Bool)
    {done : List α} (doneHold : ∀ value ∈ done, holds value) (steps : Nat) :
    Yields allowed (items item isFirst done steps) fun values => ∀ value ∈ values, holds value := by
  induction steps generalizing isFirst done with
  | zero =>
      intro text _ values rest read
      cases read
  | succ steps inductionHypothesis =>
      intro text numbers values rest read
      rw [items] at read
      split at read
      · cases read
      · obtain ⟨_, closed, same⟩ := exists_of_map_eq_ok read
        obtain ⟨rfl, rfl⟩ := Prod.mk.inj same
        refine ⟨past_closeList closed, fun value member => ?_⟩
        exact doneHold value (List.mem_reverse.1 member)
      · rename_i next
        split at read
        · cases read
        · rename_i value left found
          have start := past_nextItem next
          obtain ⟨past, holdsValue⟩ := yields _ (numbers.past start) _ _ found
          have nextHold : ∀ other ∈ value :: done, holds other :=
            List.forall_mem_cons.2 ⟨holdsValue, doneHold⟩
          have soFar := start.trans past
          obtain ⟨later, allHold⟩ :=
            inductionHypothesis false nextHold _ (numbers.past soFar) _ _ read
          exact ⟨soFar.trans later, allHold⟩

theorem listBody_yields {item : Reader α} (yields : Yields allowed item holds) :
    Yields allowed (listBody item) fun values => ∀ value ∈ values, holds value := by
  intro text
  exact items_yields yields true (by simp) _ text

theorem members_yields {value : Reader α} (yields : Yields allowed value holds) (isFirst : Bool)
    {done : List (String × α)} (doneHold : ∀ member ∈ done, holds member.2) (steps : Nat) :
    Yields allowed (members value isFirst done steps) fun pairs =>
      ∀ pair ∈ pairs, holds pair.2 := by
  induction steps generalizing isFirst done with
  | zero =>
      intro text _ pairs rest read
      cases read
  | succ steps inductionHypothesis =>
      intro text numbers pairs rest read
      rw [members] at read
      split at read
      · cases read
      · obtain ⟨_, closed, same⟩ := exists_of_map_eq_ok read
        obtain ⟨rfl, rfl⟩ := Prod.mk.inj same
        refine ⟨past_closeObject closed, fun pair isPair => ?_⟩
        exact doneHold pair (List.mem_reverse.1 isPair)
      · rename_i name afterName next
        split at read
        · cases read
        · rename_i separated
          split at read
          · cases read
          · rename_i held left found
            have start := (past_nextMember next).trans (past_colon separated)
            obtain ⟨past, holdsValue⟩ := yields _ (numbers.past start) _ _ found
            have nextHold : ∀ other ∈ (name, held) :: done, holds other.2 :=
              List.forall_mem_cons.2 ⟨holdsValue, doneHold⟩
            have soFar := start.trans past
            obtain ⟨later, allHold⟩ :=
              inductionHypothesis false nextHold _ (numbers.past soFar) _ _ read
            exact ⟨soFar.trans later, allHold⟩

theorem objectBody_yields {value : Reader α} (yields : Yields allowed value holds) :
    Yields allowed (objectBody value) fun pairs => ∀ pair ∈ pairs, holds pair.2 := by
  intro text
  exact members_yields yields true (by simp) _ text

end

/-! ## Values -/

section

variable {allowed : Number → Prop}

theorem scalar_yields (depth : Nat) : Yields allowed scalar (Within allowed depth) := by
  intro text numbers value rest read
  unfold scalar at read
  split at read
  · cases read
  · obtain ⟨_, word, same⟩ := exists_of_map_eq_ok read
    obtain ⟨rfl, rfl⟩ := Prod.mk.inj same
    exact ⟨(past_word (by decide) word).cons (by decide), .null⟩
  · obtain ⟨_, word, same⟩ := exists_of_map_eq_ok read
    obtain ⟨rfl, rfl⟩ := Prod.mk.inj same
    exact ⟨(past_word (by decide) word).cons (by decide), .bool true⟩
  · obtain ⟨_, word, same⟩ := exists_of_map_eq_ok read
    obtain ⟨rfl, rfl⟩ := Prod.mk.inj same
    exact ⟨(past_word (by decide) word).cons (by decide), .bool false⟩
  · obtain ⟨⟨held, _⟩, found, same⟩ := exists_of_map_eq_ok read
    obtain ⟨rfl, rfl⟩ := Prod.mk.inj same
    exact ⟨past_stringLiteral found, .string held⟩
  · split at read
    · obtain ⟨⟨number, _⟩, found, same⟩ := exists_of_map_eq_ok read
      obtain ⟨rfl, rfl⟩ := Prod.mk.inj same
      exact ⟨passes_numberLiteral _ _ _ found, .number (numbers.numberLiteral found)⟩
    · cases read

/-- Members that were read one by one have distinct names and values within the same depth. -/
theorem within_ofPairs {depth : Nat} {pairs : List (String × Json)}
    (each : ∀ pair ∈ pairs, Within allowed depth pair.2) :
    Within allowed (depth + 1) (.object (Members.ofPairs pairs)) :=
  .object (fun member isMember => each member (Members.mem_ofPairs isMember))
    (Members.nodup_ofPairs pairs)

theorem value_yields (depth : Nat) :
    Yields allowed (Json.value depth) (Within allowed depth) := by
  induction depth with
  | zero =>
      intro text numbers value rest read
      unfold Json.value at read
      split at read
      · cases read
      · cases read
      · have start := past_skipSpace text
        obtain ⟨past, within⟩ := scalar_yields 0 _ (numbers.past start) _ _ read
        exact ⟨start.trans past, within⟩
  | succ inner inductionHypothesis =>
      intro text numbers value rest read
      unfold Json.value at read
      split at read
      · rename_i opened
        have start := past_of_skipSpace opened (past_tail _ (by decide))
        obtain ⟨⟨values, _⟩, found, same⟩ := exists_of_map_eq_ok read
        obtain ⟨rfl, rfl⟩ := Prod.mk.inj same
        obtain ⟨past, each⟩ :=
          listBody_yields inductionHypothesis _ (numbers.past start) _ _ found
        exact ⟨start.trans past, .array each⟩
      · rename_i opened
        have start := past_of_skipSpace opened (past_tail _ (by decide))
        obtain ⟨⟨pairs, _⟩, found, same⟩ := exists_of_map_eq_ok read
        obtain ⟨rfl, rfl⟩ := Prod.mk.inj same
        obtain ⟨past, each⟩ :=
          objectBody_yields inductionHypothesis _ (numbers.past start) _ _ found
        exact ⟨start.trans past, within_ofPairs each⟩
      · have start := past_skipSpace text
        obtain ⟨past, within⟩ := scalar_yields _ _ (numbers.past start) _ _ read
        exact ⟨start.trans past, within⟩

end

end LibraryScout.Json
