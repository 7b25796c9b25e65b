import LibraryScout.Proofs.Json.MemberText

/-!
Contract: bodies are read back in any layout.

Owns:
- that the body of an array or object in a layout is made of texts with commas between them;
- that it is read back as the items or members whose texts it is made of, for items of any type.
-/

namespace LibraryScout.Json

open LibraryScout.Text (StopsBefore)

/-! ## Bodies as texts -/

section

variable (layout : Layout) (depth : Nat)

theorem following_texts (texts : List (List Char)) {gap : List Char} (blank : Blank gap) :
    Following texts (layout.following depth texts ++ gap) := by
  induction texts with
  | nil => exact .close blank
  | cons text others inductionHypothesis =>
      have next : Following (text :: others) _ :=
        .next blank_nil (layout.blankLine depth) inductionHypothesis
      simpa [Layout.following] using next

theorem separated_body (texts : List (List Char)) :
    Separated texts (layout.body depth texts) := by
  cases texts with
  | nil => exact .nothing blank_nil
  | cons text others =>
      have all : Separated (text :: others) _ := .texts (layout.blankLine (depth + 1))
        (following_texts layout (depth + 1) others (layout.blankLine depth))
      simpa [Layout.body, Layout.separated] using all

/-- What follows an item is a comma, or white space and the closing bracket. -/
theorem stops_following (texts : List (List Char)) {closing : Char}
    (ends : continuesNumber closing = false) (level : Nat) (rest : List Char) :
    StopsBefore continuesNumber
      (layout.following depth texts ++ (layout.lineStart level ++ closing :: rest)) := by
  rw [← List.append_assoc]
  exact (following_texts layout depth texts (layout.blankLine level)).stops closing ends rest

theorem following_cons (text : List Char) (others : List (List Char)) (rest : List Char) :
    layout.following depth (text :: others) ++ rest =
      ',' :: (layout.lineStart depth ++ (text ++ (layout.following depth others ++ rest))) := by
  simp [Layout.following]

theorem body_cons (text : List Char) (others : List (List Char)) (closing : Char)
    (rest : List Char) :
    layout.body depth (text :: others) ++ closing :: rest =
      layout.lineStart (depth + 1) ++
        (text ++ (layout.following (depth + 1) others ++
          (layout.lineStart depth ++ closing :: rest))) := by
  simp [Layout.body, Layout.separated]

theorem length_following (texts : List (List Char)) :
    texts.length ≤ (layout.following depth texts).length := by
  induction texts with
  | nil => exact Nat.zero_le _
  | cons text others inductionHypothesis =>
      have split := following_cons layout depth text others []
      rw [List.append_nil, List.append_nil] at split
      rw [split]
      simp only [List.length_cons, List.length_append]
      omega

end

/-! ## Bodies of arrays -/

/-- The body of an array is read back as its items. -/
theorem listBody_body (layout : Layout) (depth : Nat) {α : Type} {item : Reader α}
    {values : List α} {textOf : α → List Char}
    (reads : ∀ value ∈ values, Reads item (textOf value) value)
    (opens : ∀ value ∈ values, Opens (textOf value)) (rest : List Char) :
    listBody item (layout.body depth (values.map textOf) ++ ']' :: rest) = .ok (values, rest) := by
  have separated := separated_body layout depth
    ((values.map fun value => (value, textOf value)).map Prod.snd)
  have readsEach : ∀ part ∈ values.map fun value => (value, textOf value),
      Reads item part.2 part.1 := by
    intro part member
    obtain ⟨value, isValue, rfl⟩ := List.mem_map.1 member
    exact reads value isValue
  have opensEach : ∀ part ∈ values.map fun value => (value, textOf value), Opens part.2 := by
    intro part member
    obtain ⟨value, isValue, rfl⟩ := List.mem_map.1 member
    exact opens value isValue
  have body := listBody_of_separated readsEach opensEach separated rest
  simpa [List.map_map, Function.comp_def] using body

/-! ## Bodies of objects -/

section

variable {gap : List Char} (blank : Blank gap) (rest : List Char)

include blank

theorem nextMember_first (name : String) :
    nextMember true (gap ++ (literal name ++ rest)) = .ok (some (name, rest)) := by
  rw [literal_append]
  exact nextMember_spelled blank rest (spells_escaped name.toList)

theorem nextMember_following (name : String) :
    nextMember false (',' :: (gap ++ (literal name ++ rest))) = .ok (some (name, rest)) := by
  rw [literal_append]
  exact nextMember_behindComma blank rest (spells_escaped name.toList) blank_nil

end

theorem colon_colon (rest : List Char) : colon (':' :: rest) = .ok rest := rfl

namespace Layout

/-- A member of a layout as a text. -/
def member (layout : Layout) (name : String) (text : List Char) : MemberText :=
  ⟨name, name.toList.flatMap escapeChar, [], layout.afterColon, text⟩

theorem name_member (layout : Layout) (name : String) (text : List Char) :
    (layout.member name text).name = name :=
  rfl

theorem wellFormed_member (layout : Layout) (name : String) (text : List Char) :
    (layout.member name text).WellFormed :=
  ⟨spells_escaped name.toList, blank_nil, layout.blankColon⟩

theorem chars_member (layout : Layout) (name : String) (text : List Char) :
    (layout.member name text).chars = layout.memberText name text := by
  simp [member, MemberText.chars, memberText, literal]

end Layout

theorem memberText_append (layout : Layout) (name : String) (text rest : List Char) :
    layout.memberText name text ++ rest =
      literal name ++ ':' :: (layout.afterColon ++ (text ++ rest)) := by
  simp [Layout.memberText]

/-- The body of an object is read back as its members. -/
theorem objectBody_body (layout : Layout) (depth : Nat) {α : Type} {read : Reader α}
    {pairs : List (String × α)} {textOf : α → List Char}
    (reads : ∀ pair ∈ pairs, Reads read (textOf pair.2) pair.2) (rest : List Char) :
    objectBody read
        (layout.body depth (pairs.map fun pair => layout.memberText pair.1 (textOf pair.2)) ++
          '\x7d' :: rest) =
      .ok (pairs, rest) := by
  have separated := separated_body layout depth
    ((pairs.map fun pair => (layout.member pair.1 (textOf pair.2), pair.2)).map
      fun part => part.1.chars)
  have wellFormed : ∀ part ∈ pairs.map fun pair =>
      (layout.member pair.1 (textOf pair.2), pair.2), part.1.WellFormed := by
    intro part isPart
    obtain ⟨pair, -, rfl⟩ := List.mem_map.1 isPart
    exact layout.wellFormed_member pair.1 (textOf pair.2)
  have readsEach : ∀ part ∈ pairs.map fun pair =>
      (layout.member pair.1 (textOf pair.2), pair.2), Reads read part.1.valueText part.2 := by
    intro part isPart
    obtain ⟨pair, isPair, rfl⟩ := List.mem_map.1 isPart
    exact reads pair isPair
  have body := objectBody_of_separated wellFormed readsEach separated rest
  simpa [List.map_map, Function.comp_def, Layout.chars_member, Layout.name_member] using body

end LibraryScout.Json
