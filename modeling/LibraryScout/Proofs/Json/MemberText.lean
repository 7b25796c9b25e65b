import LibraryScout.Proofs.Json.Separated

/-!
Contract: the bodies of objects.

Owns:
- `MemberText`, a name with its value, a colon and white space between them;
- that the body of an object is read as the members that its texts are read as, for values of any
  type, with repeated names kept, and that no other text is read as one.
-/

namespace LibraryScout.Json

open LibraryScout.Text (StopsBefore)

/-! ## Members as texts -/

/-- A member as it stands in a text: its name and what spells it, the white space on both sides of
the colon, and the text of its value. -/
structure MemberText where
  name : String
  nameBody : List Char
  before : List Char
  behind : List Char
  valueText : List Char

namespace MemberText

def chars (member : MemberText) : List Char :=
  '"' :: (member.nameBody ++ '"' :: (member.before ++ ':' :: (member.behind ++ member.valueText)))

structure WellFormed (member : MemberText) : Prop where
  spells : Spells member.name.toList member.nameBody
  blankBefore : Blank member.before
  blankBehind : Blank member.behind

theorem chars_append (member : MemberText) (rest : List Char) :
    member.chars ++ rest =
      '"' :: (member.nameBody ++
        '"' :: (member.before ++ ':' :: (member.behind ++ (member.valueText ++ rest)))) := by
  simp [chars]

end MemberText

/-! ## Bodies that are read -/

section

variable {gap : List Char} (blank : Blank gap) (rest : List Char)

include blank

theorem nextMember_close (isFirst : Bool) :
    nextMember isFirst (gap ++ '\x7d' :: rest) = .ok none := by
  rw [nextMember, skipSpace_mark blank rest (by decide)]
  rfl

theorem closeObject_close : closeObject (gap ++ '\x7d' :: rest) = .ok rest := by
  rw [closeObject, skipSpace_mark blank rest (by decide)]
  rfl

theorem colon_mark : colon (gap ++ ':' :: rest) = .ok rest := by
  rw [colon, skipSpace_mark blank rest (by decide)]
  rfl

variable {name : String} {body : List Char} (spells : Spells name.toList body)

include spells

theorem nextMember_spelled :
    nextMember true (gap ++ '"' :: (body ++ '"' :: rest)) = .ok (some (name, rest)) := by
  rw [nextMember, skipSpace_mark blank _ (by decide)]
  simp [memberName, stringLiteral_of_spells spells, Except.map]

theorem nextMember_behindComma {before : List Char} (blankBefore : Blank before) :
    nextMember false (before ++ ',' :: (gap ++ '"' :: (body ++ '"' :: rest))) =
      .ok (some (name, rest)) := by
  have quote : ∀ input, skipSpace (gap ++ '"' :: input) = '"' :: input :=
    fun input => skipSpace_mark blank input (by decide)
  rw [nextMember, skipSpace_mark blankBefore _ (by decide)]
  simp [quote, memberName, stringLiteral_of_spells spells, Except.map]

end

section

variable {α : Type} {read : Reader α} {parts : List (MemberText × α)} {body : List Char}
  (wellFormed : ∀ part ∈ parts, part.1.WellFormed)
  (reads : ∀ part ∈ parts, Reads read part.1.valueText part.2)

include wellFormed reads

theorem members_of_following (following : Following (parts.map fun part => part.1.chars) body)
    (done : List (String × α)) {steps : Nat} (enough : parts.length < steps) (rest : List Char) :
    members read false done steps (body ++ '\x7d' :: rest) =
      .ok (done.reverse ++ parts.map fun part => (part.1.name, part.2), rest) := by
  induction parts generalizing body done steps with
  | nil =>
      obtain ⟨more, rfl⟩ := Nat.exists_eq_succ_of_ne_zero (Nat.ne_of_gt enough)
      cases following with
      | close blank =>
          rw [members, nextMember_close blank, closeObject_close blank]
          simp [Except.map]
  | cons part others inductionHypothesis =>
      obtain ⟨more, rfl⟩ := Nat.exists_eq_succ_of_ne_zero (Nat.ne_of_gt (Nat.zero_lt_of_lt enough))
      obtain ⟨wellFormedHere, wellFormedLater⟩ := List.forall_mem_cons.1 wellFormed
      obtain ⟨readsHere, readsLater⟩ := List.forall_mem_cons.1 reads
      cases following with
      | next blankBefore blankBehind following =>
          have here := readsHere part.1.behind _ wellFormedHere.blankBehind
            (following.stops '\x7d' (by decide) rest)
          have later := inductionHypothesis wellFormedLater readsLater following
            ((part.1.name, part.2) :: done) (Nat.lt_of_succ_lt_succ enough)
          simp only [List.append_assoc, List.cons_append, MemberText.chars_append]
          rw [members,
            nextMember_behindComma blankBehind _ wellFormedHere.spells blankBefore]
          simp only [colon_mark wellFormedHere.blankBefore, here, later]
          simp

/-- The body of an object is read as its members. -/
theorem objectBody_of_separated (separated : Separated (parts.map fun part => part.1.chars) body)
    (rest : List Char) :
    objectBody read (body ++ '\x7d' :: rest) =
      .ok (parts.map fun part => (part.1.name, part.2), rest) := by
  cases parts with
  | nil =>
      cases separated with
      | nothing blank =>
          rw [objectBody, members, nextMember_close blank, closeObject_close blank]
          rfl
  | cons part others =>
      obtain ⟨wellFormedHere, wellFormedLater⟩ := List.forall_mem_cons.1 wellFormed
      obtain ⟨readsHere, readsLater⟩ := List.forall_mem_cons.1 reads
      cases separated with
      | texts blank following =>
          have here := readsHere part.1.behind _ wellFormedHere.blankBehind
            (following.stops '\x7d' (by decide) rest)
          have atLeast := following.length_le
          rw [List.length_map] at atLeast
          simp only [List.append_assoc, List.cons_append, MemberText.chars_append]
          rw [objectBody, members, nextMember_spelled blank _ wellFormedHere.spells]
          simp only [colon_mark wellFormedHere.blankBefore, here]
          refine members_of_following wellFormedLater readsLater following
            [(part.1.name, part.2)] ?_ rest
          simp only [List.length_append, List.length_cons]
          omega

end

/-! ## Nothing else is read -/

theorem exists_of_closeObject {text rest : List Char} (closed : closeObject text = .ok rest) :
    ∃ gap, text = gap ++ '\x7d' :: rest ∧ Blank gap := by
  unfold closeObject at closed
  split at closed
  · cases closed
  next skipped =>
    cases closed
    exact exists_blank skipped
  · cases closed
  · cases closed

theorem exists_of_colon {text rest : List Char} (separated : colon text = .ok rest) :
    ∃ gap, text = gap ++ ':' :: rest ∧ Blank gap := by
  unfold colon at separated
  split at separated
  · cases separated
  next skipped =>
    cases separated
    exact exists_blank skipped
  · cases separated

theorem exists_of_memberName {text rest : List Char} {name : String}
    (named : memberName text = .ok (name, rest)) :
    ∃ body, text = '"' :: (body ++ '"' :: rest) ∧ Spells name.toList body := by
  unfold memberName at named
  split at named
  · obtain ⟨body, rfl, spells⟩ := exists_spells_of_stringLiteral named
    exact ⟨body, rfl, spells⟩
  · cases named

theorem exists_of_nextMember_first {text rest : List Char} {name : String}
    (next : nextMember true text = .ok (some (name, rest))) :
    ∃ gap body, text = gap ++ '"' :: (body ++ '"' :: rest) ∧ Blank gap ∧
      Spells name.toList body := by
  unfold nextMember at next
  split at next
  · cases next
  · cases next
  next skipped =>
    rw [if_pos rfl] at next
    obtain ⟨_, named, same⟩ := exists_of_map_eq_ok next
    cases same
    obtain ⟨body, whole, spells⟩ := exists_of_memberName named
    obtain ⟨gap, rfl, blank⟩ := exists_blank skipped
    exact ⟨gap, body, by rw [whole], blank, spells⟩

theorem exists_of_nextMember_following {text rest : List Char} {name : String}
    (next : nextMember false text = .ok (some (name, rest))) :
    ∃ before behind body, text = before ++ ',' :: (behind ++ '"' :: (body ++ '"' :: rest)) ∧
      Blank before ∧ Blank behind ∧ Spells name.toList body := by
  unfold nextMember at next
  split at next
  · cases next
  · cases next
  next character left notClosing skipped =>
    rw [if_neg Bool.false_ne_true] at next
    split at next
    next comma =>
      split at next
      · cases next
      · cases next
      next =>
        obtain ⟨_, named, same⟩ := exists_of_map_eq_ok next
        cases same
        obtain ⟨body, whole, spells⟩ := exists_of_memberName named
        obtain ⟨before, rfl, blankBefore⟩ := exists_blank skipped
        obtain ⟨behind, split, blankBehind⟩ := exists_blank_skipSpace left
        exact ⟨before, behind, body, by rw [comma, ← whole, ← split], blankBefore, blankBehind,
          spells⟩
    · cases next

section

variable {α β : Type} {read : Reader α} {meaning : β → α} {written : β → List Char → Prop}
  (finds : Finds read meaning written)

include finds

theorem exists_following_of_members {done : List (String × α)} {steps : Nat}
    {text rest : List Char} {pairs : List (String × α)}
    (found : members read false done steps text = .ok (pairs, rest)) :
    ∃ (parts : List (MemberText × β)) (body : List Char), text = body ++ '\x7d' :: rest ∧
      Following (parts.map fun part => part.1.chars) body ∧
      (∀ part ∈ parts, part.1.WellFormed) ∧ (∀ part ∈ parts, written part.2 part.1.valueText) ∧
      pairs = done.reverse ++ parts.map fun part => (part.1.name, meaning part.2) := by
  induction steps generalizing done text with
  | zero => cases found
  | succ steps inductionHypothesis =>
      rw [members] at found
      split at found
      · cases found
      · obtain ⟨left, closed, same⟩ := exists_of_map_eq_ok found
        cases same
        obtain ⟨gap, rfl, blank⟩ := exists_of_closeObject closed
        exact ⟨[], gap, rfl, .close blank, by simp, by simp, by simp⟩
      next name afterName next =>
        split at found
        · cases found
        next start separated =>
          split at found
          · cases found
          next value left here =>
            obtain ⟨before, behind, nameBody, rfl, blankBefore, blankBehind, spells⟩ :=
              exists_of_nextMember_following next
            obtain ⟨beforeColon, rfl, blankColon⟩ := exists_of_colon separated
            obtain ⟨gap, valueText, content, rfl, blank, isWritten, rfl⟩ := finds _ _ _ here
            obtain ⟨parts, body, rfl, following, allFormed, allWritten, rfl⟩ :=
              inductionHypothesis found
            refine ⟨(⟨name, nameBody, beforeColon, gap, valueText⟩, content) :: parts,
              before ++ ',' :: (behind ++
                ((⟨name, nameBody, beforeColon, gap, valueText⟩ : MemberText).chars ++ body)),
              by simp [MemberText.chars], .next blankBefore blankBehind following,
              List.forall_mem_cons.2 ⟨⟨spells, blankColon, blank⟩, allFormed⟩,
              List.forall_mem_cons.2 ⟨isWritten, allWritten⟩, by simp⟩

/-- Nothing else is read as the body of an object. -/
theorem exists_separated_of_objectBody {text rest : List Char} {pairs : List (String × α)}
    (found : objectBody read text = .ok (pairs, rest)) :
    ∃ (parts : List (MemberText × β)) (body : List Char), text = body ++ '\x7d' :: rest ∧
      Separated (parts.map fun part => part.1.chars) body ∧
      (∀ part ∈ parts, part.1.WellFormed) ∧ (∀ part ∈ parts, written part.2 part.1.valueText) ∧
      pairs = parts.map fun part => (part.1.name, meaning part.2) := by
  rw [objectBody, members] at found
  split at found
  · cases found
  · obtain ⟨left, closed, same⟩ := exists_of_map_eq_ok found
    cases same
    obtain ⟨gap, rfl, blank⟩ := exists_of_closeObject closed
    exact ⟨[], gap, rfl, .nothing blank, by simp, by simp, by simp⟩
  next name afterName next =>
    split at found
    · cases found
    next start separated =>
      split at found
      · cases found
      next value left here =>
        obtain ⟨before, nameBody, rfl, blankBefore, spells⟩ := exists_of_nextMember_first next
        obtain ⟨beforeColon, rfl, blankColon⟩ := exists_of_colon separated
        obtain ⟨gap, valueText, content, rfl, blank, isWritten, rfl⟩ := finds _ _ _ here
        obtain ⟨parts, body, rfl, following, allFormed, allWritten, rfl⟩ :=
          exists_following_of_members finds found
        refine ⟨(⟨name, nameBody, beforeColon, gap, valueText⟩, content) :: parts,
          before ++ ((⟨name, nameBody, beforeColon, gap, valueText⟩ : MemberText).chars ++ body),
          by simp [MemberText.chars], .texts blankBefore following,
          List.forall_mem_cons.2 ⟨⟨spells, blankColon, blank⟩, allFormed⟩,
          List.forall_mem_cons.2 ⟨isWritten, allWritten⟩, by simp⟩

end

end LibraryScout.Json
