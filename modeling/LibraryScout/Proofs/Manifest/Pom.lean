import LibraryScout.Manifest.Pom
import LibraryScout.Proofs.Text.Pieces

/-!
Contract: the coordinates that a Maven project holds.

Owns: that a coordinate joins a group and an artifact with a colon, both of them trimmed texts that
are not empty.
-/

namespace LibraryScout.Manifest.Pom

open LibraryScout.Source LibraryScout.Text

/-- A group and an artifact with a colon between them. -/
def IsCoordinate (identifier : String) : Prop :=
  ∃ group artifact : List Char, identifier.toList = group ++ ':' :: artifact ∧ Bare group ∧
    Bare artifact

theorem bare_of_field? {dependency : Xml.Node} {name content : String}
    (found : field? dependency name = some content) : Bare content.toList := by
  unfold field? at found
  split at found
  · cases found
  · split at found
    · cases found
    next text leading =>
      dsimp only at found
      split at found
      · cases found
      next nonempty =>
        cases found
        rw [trimmed, String.toList_ofList]
        apply bare_trim
        intro empty
        exact nonempty (by rw [trimmed, empty])

theorem isCoordinate_of_coordinate {index : Nat} {dependency : Xml.Node} {identifier : String}
    (made : coordinate index dependency = .ok identifier) : IsCoordinate identifier := by
  unfold coordinate at made
  split at made
  · cases made
  next group groupFound =>
    split at made
    · cases made
    next artifact artifactFound =>
      cases made
      exact ⟨group.toList, artifact.toList, by simp, bare_of_field? groupFound,
        bare_of_field? artifactFound⟩

theorem isCoordinate_of_mem_coordinates {index : Nat} {dependencies : List Xml.Node}
    {found : List String} (made : coordinates index dependencies = .ok found) :
    ∀ identifier ∈ found, IsCoordinate identifier := by
  induction dependencies generalizing index found with
  | nil =>
      cases made
      simp
  | cons dependency others inductionHypothesis =>
      rw [coordinates] at made
      split at made
      · cases made
      next first firstMade =>
        cases later : coordinates (index + 1) others with
        | error fault => simp [later, Except.map] at made
        | ok rest =>
            rw [later] at made
            cases made
            intro identifier member
            rcases List.mem_cons.1 member with rfl | inRest
            · exact isCoordinate_of_coordinate firstMade
            · exact inductionHypothesis later identifier inRest

theorem isCoordinate_of_mem_read {text : String} {found : List String}
    (made : read text = .ok found) : ∀ identifier ∈ found, IsCoordinate identifier := by
  unfold read at made
  split at made
  · cases made
  next root _ =>
    unfold ofRoot at made
    split at made
    · split at made
      · cases made
      · exact isCoordinate_of_mem_coordinates made
    · cases made

/-- Identifiers of a project are coordinates. -/
theorem form_of_mem_extract {text identifier : String}
    (member : identifier ∈ (extract text).1.context.identifiers) : IsCoordinate identifier := by
  unfold extract at member
  split at member
  next found made =>
    rw [Extraction.ofContext, Context.mem_ofList] at member
    exact isCoordinate_of_mem_read made identifier member.1
  · simp [Extraction.empty, Extraction.ofContext, Context.empty] at member

end LibraryScout.Manifest.Pom
