import LibraryScout.Proofs.Manifest.Dependencies
import LibraryScout.Proofs.Xml.Comments

/-!
Contract: the dependencies of a Maven project when comments are put into its document.

Owns:
- `KeepsFields`, that the group and the artifact of each dependency start with the same text as
  before, white space around it aside;
- that comments change the dependencies of a project that has some exactly if they do not keep its
  fields, and give none to a project that has none.

A comment in front of a field's text, or inside it, hides what follows: only the first child of the
field is read.

Does not own: where comments may stand in a tree.
-/

namespace LibraryScout.Manifest.Pom

open LibraryScout.Source
open LibraryScout.Xml (Node Commented Sprinkled)

/-! ## Contents of fields -/

/-- The fields of a dependency start with the same texts, white space around them aside. -/
def KeepsContents (dependency changed : Node) : Prop :=
  ∀ field ∈ fields, ∀ child other, dependency.IsFirstChild field child →
    changed.IsFirstChild field other →
      other.leadingText?.map Text.trimmed = child.leadingText?.map Text.trimmed

/-- The fields of all dependencies in the first block start with the same texts. -/
def KeepsFields (root changed : Node) : Prop :=
  ∀ block other, root.IsFirstChild "dependencies" block →
    changed.IsFirstChild "dependencies" other →
      List.Forall₂ KeepsContents (listed block) (listed other)

/-- Only the trimmed text that the first child of a name starts with matters for a field. -/
theorem field?_eq (dependency : Node) (field : String) :
    field? dependency field = ((dependency.child? field).bind fun child =>
      (child.leadingText?.map Text.trimmed).bind fun content =>
        if content = "" then none else some content) := by
  rw [field?]
  cases dependency.child? field with
  | none => rfl
  | some child => cases leading : child.leadingText? <;> simp [leading]

theorem Holds.trimmed_eq {dependency child : Node} {field content : String}
    (holds : Holds dependency field content) (isFirst : dependency.IsFirstChild field child) :
    child.leadingText?.map Text.trimmed = some content := by
  obtain ⟨other, text, otherFirst, leading, rfl, -⟩ := holds
  cases isFirst.unique otherFirst
  rw [leading, Option.map_some]

theorem Holds.unique {dependency : Node} {field content other : String}
    (holds : Holds dependency field content) (holdsOther : Holds dependency field other) :
    content = other := by
  rw [← field?_eq_some_iff] at holds holdsOther
  exact Option.some.inj (holds.symm.trans holdsOther)

/-- Parts of a group and of an artifact that make the same identifier are all of them. -/
theorem eq_of_parts {group artifact shortGroup shortArtifact : String}
    (groupPart : shortGroup.toList <+: group.toList)
    (artifactPart : shortArtifact.toList <+: artifact.toList)
    (same : group ++ ":" ++ artifact = shortGroup ++ ":" ++ shortArtifact) :
    shortGroup = group ∧ shortArtifact = artifact := by
  have lengths := congrArg (fun identifier => identifier.toList.length) same
  simp only [String.toList_append, List.length_append] at lengths
  have groupShorter := groupPart.length_le
  have artifactShorter := artifactPart.length_le
  constructor
  · exact String.toList_injective (groupPart.eq_of_length (by omega))
  · exact String.toList_injective (artifactPart.eq_of_length (by omega))

section

variable {dependency changed : Node} (commented : Commented dependency changed)

include commented

/-- A comment leaves of a field's content what stands in front of it. -/
theorem Holds.of_commented {field short : String} (holds : Holds changed field short) :
    ∃ content, Holds dependency field content ∧ short.toList <+: content.toList := by
  obtain ⟨other, shortText, isFirst, leading, rfl, nonempty⟩ := holds
  obtain ⟨child, isChild, related⟩ := commented.firstChild_before isFirst
  obtain ⟨text, whole, rest, split⟩ := related.leadingText?_prefix leading
  have kept : (Text.trimmed shortText).toList <+: (Text.trimmed text).toList := by
    rw [Text.trimmed, Text.trimmed, String.toList_ofList, String.toList_ofList, ← split]
    exact Text.trim_append _ _
  have nonemptyWhole : Text.trimmed text ≠ "" := by
    intro empty
    rw [empty] at kept
    exact nonempty (String.toList_eq_nil_iff.1 (List.prefix_nil.1 kept))
  exact ⟨Text.trimmed text, ⟨child, text, isChild, whole, rfl, nonemptyWhole⟩, kept⟩

theorem isComplete_of_commented (complete : IsComplete changed) : IsComplete dependency := by
  intro field isField
  obtain ⟨short, holds⟩ := complete field isField
  obtain ⟨content, wholeHolds, -⟩ := holds.of_commented commented
  exact ⟨content, wholeHolds⟩

theorem alike_of_keepsContents (keeps : KeepsContents dependency changed) :
    Alike dependency changed := by
  intro field isField
  rw [field?_eq, field?_eq]
  have children := commented.child? field
  have contents := keeps field isField
  simp only [← Node.child?_eq_some_iff] at contents
  generalize dependency.child? field = first, changed.child? field = second at children contents ⊢
  cases children with
  | none => rfl
  | some related => rw [Option.bind_some, Option.bind_some, contents _ _ rfl rfl]

/-- What comments leave of group and artifact makes the same identifier only if it is all. -/
theorem keepsContents_of_identifies {identifier : String}
    (identifies : Identifies dependency identifier)
    (identifiesStill : Identifies changed identifier) :
    KeepsContents dependency changed := by
  obtain ⟨group, artifact, hasGroup, hasArtifact, rfl⟩ := identifies
  obtain ⟨shortGroup, shortArtifact, hasShortGroup, hasShortArtifact, same⟩ := identifiesStill
  obtain ⟨wholeGroup, hasWholeGroup, groupPart⟩ := hasShortGroup.of_commented commented
  obtain ⟨wholeArtifact, hasWholeArtifact, artifactPart⟩ :=
    hasShortArtifact.of_commented commented
  cases hasGroup.unique hasWholeGroup
  cases hasArtifact.unique hasWholeArtifact
  obtain ⟨rfl, rfl⟩ := eq_of_parts groupPart artifactPart same
  intro field isField child other isFirst isOther
  rcases List.mem_pair.1 isField with rfl | rfl
  · rw [hasGroup.trimmed_eq isFirst, hasShortGroup.trimmed_eq isOther]
  · rw [hasArtifact.trimmed_eq isFirst, hasShortArtifact.trimmed_eq isOther]

end

theorem keepsContents_of_each {dependencies others : List Node} {identifiers : List String}
    (related : List.Forall₂ Commented dependencies others)
    (each : List.Forall₂ Identifies dependencies identifiers)
    (eachStill : List.Forall₂ Identifies others identifiers) :
    List.Forall₂ KeepsContents dependencies others := by
  induction related generalizing identifiers with
  | nil => exact .nil
  | cons commented later inductionHypothesis =>
      cases each with
      | cons identifies identifiesLater =>
          cases eachStill with
          | cons identifiesStill identifiesLaterStill =>
              exact .cons (keepsContents_of_identifies commented identifies identifiesStill)
                (inductionHypothesis identifiesLater identifiesLaterStill)

/-! ## Commented projects -/

section

variable {root changed : Node} (commented : Commented root changed)

include commented

theorem ofRoot_eq_of_keepsFields (keeps : KeepsFields root changed) :
    ofRoot root = ofRoot changed := by
  apply ofRoot_congr commented.name?_eq
  have children := commented.child? "dependencies"
  simp only [KeepsFields, ← Node.child?_eq_some_iff] at keeps
  generalize root.child? "dependencies" = first, changed.child? "dependencies" = second
    at children keeps ⊢
  cases children with
  | none => exact .none
  | some related =>
      have each := related.childrenNamed "dependency"
      exact .some (.mp (fun _ _ => alike_of_keepsContents) each (keeps _ _ rfl rfl))

theorem spoiled_of_commented (spoiled : Spoiled (some root)) : Spoiled (some changed) := by
  cases spoiled with
  | otherRoot other => exact .otherRoot ((commented.isNamed_eq "project").symm.trans other)
  | noBlock nothing =>
      have children := commented.child? "dependencies"
      rw [Node.child?_eq_none_iff.2 nothing] at children
      generalize isBlock : changed.child? "dependencies" = found at children
      cases children
      exact .noBlock (Node.child?_eq_none_iff.1 isBlock)
  | incomplete isFirst isListed missing =>
      obtain ⟨other, isFirstStill, related⟩ := commented.firstChild isFirst
      obtain ⟨commentedOne, isListedStill, commentedHere⟩ :=
        exists_related (related.childrenNamed "dependency") isListed
      exact .incomplete isFirstStill isListedStill
        fun complete => missing (isComplete_of_commented commentedHere complete)

/-- A project whose block is empty has an empty block with comments. -/
theorem ofRoot_nil_of_commented (made : ofRoot root = .ok []) : ofRoot changed = .ok [] := by
  obtain ⟨isProject, block, isFirst, each⟩ := ofRoot_eq_ok_iff.1 made
  obtain ⟨other, isFirstStill, related⟩ := commented.firstChild isFirst
  have noneListed : List.Forall₂ Commented (listed block) (listed other) :=
    related.childrenNamed "dependency"
  rw [List.forall₂_nil_right_iff.1 each, List.forall₂_nil_left_iff] at noneListed
  have isProjectStill := (commented.isNamed_eq "project").symm.trans isProject
  exact ofRoot_eq_ok_iff.2 ⟨isProjectStill, other, isFirstStill, by rw [noneListed]; exact .nil⟩

/-- If the identifiers of a project are the same with comments, its fields are kept. -/
theorem keepsFields_of_ofRoot {identifiers : List String} (made : ofRoot root = .ok identifiers)
    (madeStill : ofRoot changed = .ok identifiers) : KeepsFields root changed := by
  obtain ⟨-, block, isFirst, each⟩ := ofRoot_eq_ok_iff.1 made
  obtain ⟨-, other, isFirstStill, eachStill⟩ := ofRoot_eq_ok_iff.1 madeStill
  intro firstBlock firstOther isBlock isOther
  cases isBlock.unique isFirst
  cases isOther.unique isFirstStill
  obtain ⟨found, isFound, related⟩ := commented.firstChild isFirst
  cases isFound.unique isFirstStill
  exact keepsContents_of_each (related.childrenNamed "dependency") each eachStill

end

/-! ## Commented documents -/

/-- A block of one dependency, whose group has some content. -/
def blockOf (group : List Node) : Node :=
  .element none "dependencies" [.element none "dependency"
    [.element none "groupId" group, .element none "artifactId" [.text "a"]]]

/-- A project with such a block and nodes in front of it. -/
def projectOf (before group : List Node) : Node :=
  .element none "project" (before ++ [blockOf group])

/-- A comment in front of the group. -/
def commentBefore : String :=
  "<project><dependencies><dependency><groupId><!-- c --> g </groupId><artifactId>a</artifactId>" ++
    "</dependency></dependencies></project>"

/-- A comment behind the group, and one in front of the block. -/
def commentsAround : String :=
  "<project><!-- c --><dependencies><dependency><groupId> g <!-- c --></groupId>" ++
    "<artifactId>a</artifactId></dependency></dependencies></project>"

theorem root?_single : Xml.root? single = some (projectOf [] [.text " g "]) :=
  roots.1

theorem commentedRoots :
    Xml.root? commentBefore = some (projectOf [] [.comment " c ", .text " g "]) ∧
      Xml.root? commentsAround =
        some (projectOf [.comment " c "] [.text " g ", .comment " c "]) := by
  decide +kernel

theorem commented_blockOf {group changed : List Node}
    (sprinkled : Sprinkled Commented group changed) :
    Commented (blockOf group) (blockOf changed) :=
  .element (.kept (.element (.kept (.element sprinkled) (.kept (.same _) .nil))) .nil)

/-- Comments in a document change what is extracted exactly if the project has dependencies and the
comments do not keep their fields. Where the fields are kept, what is reported is the same too. -/
theorem comments_matter_iff {text other : String} {root changed : Node}
    (isRoot : Xml.root? text = some root) (isChanged : Xml.root? other = some changed)
    (commented : Commented root changed) :
    ((extract other).1 = (extract text).1 ↔ Spoiled (some root) ∨ KeepsFields root changed) ∧
      (KeepsFields root changed → extract other = extract text) := by
  have kept : KeepsFields root changed → extract other = extract text := by
    intro keeps
    exact (extract_congr isRoot isChanged (ofRoot_eq_of_keepsFields commented keeps)).symm
  refine ⟨⟨?_, ?_⟩, kept⟩
  · intro same
    by_cases spoiled : Spoiled (some root)
    · exact .inl spoiled
    · obtain ⟨block, identifiers, -, -, made⟩ := exists_ok_of_not_spoiled spoiled
      rw [extract_of_ok isRoot made] at same
      have madeStill : ofRoot changed = .ok identifiers := by
        cases madeOther : ofRoot changed with
        | ok others =>
            rw [extract_of_ok isChanged madeOther] at same
            cases same
            rfl
        | error fault =>
            rw [extract_of_error isChanged madeOther] at same
            cases same
            exact madeOther.symm.trans (ofRoot_nil_of_commented commented made)
      exact .inr (keepsFields_of_ofRoot commented made madeStill)
  · rintro (spoiled | keeps)
    · obtain ⟨event, nothing, -⟩ := extract_of_spoiled (isRoot ▸ spoiled)
      obtain ⟨otherEvent, nothingStill, -⟩ :=
        extract_of_spoiled (isChanged ▸ spoiled_of_commented commented spoiled)
      rw [nothing, nothingStill]
    · rw [kept keeps]

/-- Comments behind a group and outside the block leave a document as it was. -/
theorem comments_matter_iff_around :
    KeepsFields (projectOf [] [.text " g "])
        (projectOf [.comment " c "] [.text " g ", .comment " c "]) ∧
      extract commentsAround = extract single := by
  have keeps : KeepsFields (projectOf [] [.text " g "])
      (projectOf [.comment " c "] [.text " g ", .comment " c "]) := by
    intro block other isBlock isOther
    rw [← Node.child?_eq_some_iff] at isBlock isOther
    obtain rfl : blockOf [.text " g "] = block := Option.some.inj isBlock
    obtain rfl : blockOf [.text " g ", .comment " c "] = other := Option.some.inj isOther
    refine .cons ?_ .nil
    intro field isField child changedChild isChild isChanged
    rw [← Node.child?_eq_some_iff] at isChild isChanged
    rcases List.mem_pair.1 isField with rfl | rfl
    · rw [← Option.some.inj isChild, ← Option.some.inj isChanged]
      rfl
    · rw [← Option.some.inj isChild, ← Option.some.inj isChanged]
  have behind : Sprinkled Commented [.text " g "] [.text " g ", .comment " c "] :=
    .kept (.same _) (.comment .nil)
  have commented : Commented (projectOf [] [.text " g "])
      (projectOf [.comment " c "] [.text " g ", .comment " c "]) :=
    .element (.comment (.kept (commented_blockOf behind) .nil))
  exact ⟨keeps,
    (comments_matter_iff root?_single commentedRoots.2 commented).2 keeps⟩

/-- A comment in front of a group hides it, and with it the whole list. -/
theorem comment_hides_group :
    ∃ root changed, Xml.root? single = some root ∧
      Xml.root? commentBefore = some changed ∧ Commented root changed ∧
      (extract single).1 = .ofContext ⟨["g:a"]⟩ .java ∧
      (extract commentBefore).1 = .empty .java := by
  refine ⟨_, _, root?_single, commentedRoots.1, ?_, ?_, ?_⟩
  · have inGroup : Sprinkled Commented [.text " g "] [.comment " c ", .text " g "] :=
      .comment (.kept (.same _) .nil)
    exact .element (.kept (commented_blockOf inGroup) .nil)
  · have made : ofRoot (projectOf [] [.text " g "]) = .ok ["g:a"] := rfl
    rw [extract_of_ok root?_single made]
  · have failed : ofRoot (projectOf [] [.comment " c ", .text " g "]) =
        .error (.incomplete 0 "groupId") :=
      rfl
    rw [extract_of_error commentedRoots.1 failed]

end LibraryScout.Manifest.Pom
