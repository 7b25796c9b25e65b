import LibraryScout.Proofs.Manifest.Pom
import LibraryScout.Proofs.Xml.Node
import Mathlib.Data.List.Forall2
import Mathlib.Logic.Relation

/-!
Contract: which dependencies a Maven project has, by the tree of its document.

Owns:
- `Spoiled`, the documents without dependencies, and `Identifies`, the identifier of a dependency:
  a document gives the identifiers of all of its own dependencies in order, or none;
- `Edit`, the changes of a tree that leave its own dependencies alone;
- `ofRoot_congr`, all that the dependencies of a project depend on.

Does not own: the tree of a text.
-/

namespace LibraryScout.Manifest.Pom

open LibraryScout.Source
open LibraryScout.Xml (Node)

/-! ## Projects by their trees -/

/-- The children that identify a dependency. -/
def fields : List String :=
  ["groupId", "artifactId"]

/-- The first child of a name starts with a text that is not blank; its content is the text without
the white space around it. -/
def Holds (dependency : Node) (field content : String) : Prop :=
  ∃ child text, dependency.IsFirstChild field child ∧ child.leadingText? = some text ∧
    content = Text.trimmed text ∧ content ≠ ""

/-- A dependency with a group and an artifact, and its identifier. -/
def Identifies (dependency : Node) (identifier : String) : Prop :=
  ∃ group artifact, Holds dependency "groupId" group ∧ Holds dependency "artifactId" artifact ∧
    identifier = group ++ ":" ++ artifact

/-- A dependency whose fields all have a content. -/
def IsComplete (dependency : Node) : Prop :=
  ∀ field ∈ fields, ∃ content, Holds dependency field content

/-- The dependencies of a block, repetitions kept. -/
def listed (block : Node) : List Node :=
  block.children.filter (Node.isNamed "dependency")

/-- A document, by its tree, that names no dependencies: it has no tree, it is no project, the
project has no block of its own, or a dependency in the first of these is not complete. -/
inductive Spoiled : Option Node → Prop where
  | malformed : Spoiled none
  | otherRoot {root : Node} (other : root.isNamed "project" = false) : Spoiled (some root)
  | noBlock {root : Node} (none : ∀ child ∈ root.children, child.isNamed "dependencies" = false) :
      Spoiled (some root)
  | incomplete {root block dependency : Node} (isFirst : root.IsFirstChild "dependencies" block)
      (isListed : dependency ∈ listed block) (missing : ¬ IsComplete dependency) :
      Spoiled (some root)

/-- A change of a project that leaves its first block of dependencies alone, or the first group and
artifact of each dependency in it. -/
inductive Edit : Node → Node → Prop where
  | namespaces {root changed : Node} (same : root.withoutNamespaces = changed.withoutNamespaces) :
      Edit root changed
  | outside {root changed block : Node} (isProject : root.isNamed "project" = true)
      (isFirst : root.IsFirstChild "dependencies" block)
      (staysProject : changed.isNamed "project" = true)
      (staysFirst : changed.IsFirstChild "dependencies" block) : Edit root changed
  | inside {space blockSpace : Option String} {name : String}
      {before behind first later : List Node} {dependency changed : Node}
      (isFirst : ∀ earlier ∈ before, earlier.isNamed "dependencies" = false)
      (isListed : dependency.isNamed "dependency" = true)
      (staysListed : changed.isNamed "dependency" = true)
      (sameFields : ∀ field ∈ fields, ∀ child,
        dependency.IsFirstChild field child ↔ changed.IsFirstChild field child) :
      Edit
        (.element space name (before ++
          .element blockSpace "dependencies" (first ++ dependency :: later) :: behind))
        (.element space name (before ++
          .element blockSpace "dependencies" (first ++ changed :: later) :: behind))

/-! ## Fields and identifiers -/

theorem field?_eq_some_iff {dependency : Node} {field content : String} :
    field? dependency field = some content ↔ Holds dependency field content := by
  constructor
  · intro found
    unfold field? at found
    split at found
    · cases found
    next child isChild =>
      split at found
      · cases found
      next text leading =>
        dsimp only at found
        split at found
        · cases found
        next nonempty =>
          cases found
          exact ⟨child, text, Node.child?_eq_some_iff.1 isChild, leading, rfl, nonempty⟩
  · rintro ⟨child, text, isFirst, leading, rfl, nonempty⟩
    rw [field?, Node.child?_eq_some_iff.2 isFirst]
    simp [leading, nonempty]

theorem exists_identifies_iff {dependency : Node} :
    (∃ identifier, Identifies dependency identifier) ↔ IsComplete dependency := by
  constructor
  · rintro ⟨identifier, group, artifact, hasGroup, hasArtifact, -⟩ field isField
    rcases List.mem_pair.1 isField with rfl | rfl
    · exact ⟨group, hasGroup⟩
    · exact ⟨artifact, hasArtifact⟩
  · intro complete
    obtain ⟨group, hasGroup⟩ := complete "groupId" (by decide)
    obtain ⟨artifact, hasArtifact⟩ := complete "artifactId" (by decide)
    exact ⟨_, group, artifact, hasGroup, hasArtifact, rfl⟩

theorem coordinate_eq_ok_iff {index : Nat} {dependency : Node} {identifier : String} :
    coordinate index dependency = .ok identifier ↔ Identifies dependency identifier := by
  simp only [Identifies, ← field?_eq_some_iff]
  unfold coordinate
  cases group : field? dependency "groupId" with
  | none => simp
  | some groupContent =>
      cases artifact : field? dependency "artifactId" with
      | none => simp
      | some artifactContent => simp [eq_comm]

theorem coordinates_eq_ok_iff (index : Nat) {dependencies : List Node}
    {identifiers : List String} :
    coordinates index dependencies = .ok identifiers ↔
      List.Forall₂ Identifies dependencies identifiers := by
  induction dependencies generalizing index identifiers with
  | nil => simp [coordinates, eq_comm]
  | cons dependency others inductionHypothesis =>
      rw [List.forall₂_cons_left_iff, coordinates]
      constructor
      · intro made
        split at made
        · cases made
        next first firstMade =>
          cases later : coordinates (index + 1) others with
          | error fault => simp [later, Except.map] at made
          | ok rest =>
              rw [later] at made
              cases made
              exact ⟨first, rest, coordinate_eq_ok_iff.1 firstMade,
                (inductionHypothesis _).1 later, rfl⟩
      · rintro ⟨first, rest, identifies, each, rfl⟩
        rw [coordinate_eq_ok_iff.2 identifies, (inductionHypothesis _).2 each]
        rfl

theorem ofRoot_eq_ok_iff {root : Node} {identifiers : List String} :
    ofRoot root = .ok identifiers ↔
      root.isNamed "project" = true ∧ ∃ block, root.IsFirstChild "dependencies" block ∧
        List.Forall₂ Identifies (listed block) identifiers := by
  simp only [← Node.child?_eq_some_iff, ← coordinates_eq_ok_iff 0]
  unfold ofRoot
  by_cases isProject : root.isNamed "project" = true
  · cases block : root.child? "dependencies" with
    | none => simp [isProject]
    | some found => simp [isProject, listed]
  · simp [isProject]

/-! ## All or nothing -/

/-- Every member of a list is related to some member of a list related to it. -/
theorem exists_related {α β : Type} {R : α → β → Prop} {members : List α} {others : List β}
    (each : List.Forall₂ R members others) {member : α} (isMember : member ∈ members) :
    ∃ other ∈ others, R member other := by
  induction each with
  | nil => cases isMember
  | @cons first firstOther _ _ related later inductionHypothesis =>
      rcases List.mem_cons.1 isMember with rfl | inLater
      · exact ⟨firstOther, List.mem_cons_self, related⟩
      · obtain ⟨other, isOther, relatedOther⟩ := inductionHypothesis inLater
        exact ⟨other, List.mem_cons_of_mem _ isOther, relatedOther⟩

theorem not_ok_of_spoiled {root : Node} (spoiled : Spoiled (some root))
    (identifiers : List String) : ofRoot root ≠ .ok identifiers := by
  intro made
  obtain ⟨isProject, block, isFirst, each⟩ := ofRoot_eq_ok_iff.1 made
  cases spoiled with
  | otherRoot other => simp [isProject] at other
  | noBlock none =>
      obtain ⟨before, behind, whole, named, -⟩ := isFirst
      have unnamed := none block (by simp [whole])
      simp [named] at unnamed
  | @incomplete _ other dependency otherFirst isListed missing =>
      cases otherFirst.unique isFirst
      obtain ⟨identifier, -, identifies⟩ := exists_related each isListed
      exact missing (exists_identifies_iff.1 ⟨identifier, identifies⟩)

theorem exists_ok_of_not_spoiled {root : Node} (sound : ¬ Spoiled (some root)) :
    ∃ block identifiers, root.IsFirstChild "dependencies" block ∧
      List.Forall₂ Identifies (listed block) identifiers ∧ ofRoot root = .ok identifiers := by
  have isProject : root.isNamed "project" = true := by
    by_contra other
    exact sound (.otherRoot (Bool.not_eq_true _ ▸ other))
  obtain ⟨block, isBlock⟩ : ∃ block, root.child? "dependencies" = some block := by
    rw [← Option.isSome_iff_exists, Option.isSome_iff_ne_none]
    intro nothing
    exact sound (.noBlock (Node.child?_eq_none_iff.1 nothing))
  have isFirst := Node.child?_eq_some_iff.1 isBlock
  have identified : ∀ dependency, dependency ∈ listed block →
      ∃ identifier, Identifies dependency identifier := by
    intro dependency isListed
    rw [exists_identifies_iff]
    by_contra missing
    exact sound (.incomplete isFirst isListed missing)
  choose! identifier identifies using identified
  have each : List.Forall₂ Identifies (listed block) ((listed block).map identifier) :=
    List.forall₂_map_right_iff.2 (List.forall₂_same.2 identifies)
  exact ⟨block, _, isFirst, each, ofRoot_eq_ok_iff.2 ⟨isProject, block, isFirst, each⟩⟩

/-! ## What the dependencies depend on -/

/-- Dependencies with the same contents of their fields. -/
def Alike (dependency other : Node) : Prop :=
  ∀ field ∈ fields, field? dependency field = field? other field

theorem Alike.refl (dependency : Node) : Alike dependency dependency :=
  fun _ _ => rfl

theorem Alike.coordinate_eq {dependency other : Node} (alike : Alike dependency other)
    (index : Nat) : coordinate index dependency = coordinate index other := by
  rw [coordinate, coordinate, alike "groupId" (by decide), alike "artifactId" (by decide)]

theorem coordinates_congr {dependencies others : List Node}
    (each : List.Forall₂ Alike dependencies others) (index : Nat) :
    coordinates index dependencies = coordinates index others := by
  induction each generalizing index with
  | nil => rfl
  | cons alike later inductionHypothesis =>
      rw [coordinates, coordinates, alike.coordinate_eq, inductionHypothesis]

/-- Roots of one name whose first blocks list alike dependencies name the same ones. -/
theorem ofRoot_congr {root changed : Node} (sameName : root.name? = changed.name?)
    (blocks : Option.Rel (fun block other => List.Forall₂ Alike (listed block) (listed other))
      (root.child? "dependencies") (changed.child? "dependencies")) :
    ofRoot root = ofRoot changed := by
  have named : root.isNamed "project" = changed.isNamed "project" := by
    rw [Node.isNamed, Node.isNamed, sameName]
  rw [ofRoot, ofRoot, named, sameName]
  generalize root.child? "dependencies" = block, changed.child? "dependencies" = other at blocks ⊢
  cases blocks with
  | none => rfl
  | some each =>
      have same := coordinates_congr each 0
      rw [listed, listed] at same
      simp only [same]

/-! ## Edits -/

theorem field?_withoutNamespaces (dependency : Node) (field : String) :
    field? dependency.withoutNamespaces field = field? dependency field := by
  rw [field?, field?, Node.child?_withoutNamespaces]
  cases dependency.child? field with
  | none => rfl
  | some child => simp only [Option.map_some, Node.leadingText?_withoutNamespaces]

theorem listed_withoutNamespaces (block : Node) :
    listed block.withoutNamespaces = (listed block).map Node.withoutNamespaces := by
  rw [listed, listed, Node.children_withoutNamespaces, List.filter_map]
  congr 2
  funext child
  exact Node.isNamed_withoutNamespaces child "dependency"

/-- Names are local names. -/
theorem ofRoot_withoutNamespaces (root : Node) : ofRoot root.withoutNamespaces = ofRoot root := by
  apply ofRoot_congr (Node.name?_withoutNamespaces root)
  rw [Node.child?_withoutNamespaces]
  cases root.child? "dependencies" with
  | none => exact .none
  | some block =>
      apply Option.Rel.some
      rw [listed_withoutNamespaces, List.forall₂_map_left_iff, List.forall₂_same]
      exact fun dependency _ field _ => field?_withoutNamespaces dependency field

theorem Edit.ofRoot_eq {root changed : Node} (edit : Edit root changed) :
    ofRoot root = ofRoot changed := by
  cases edit with
  | namespaces same => rw [← ofRoot_withoutNamespaces root, same, ofRoot_withoutNamespaces]
  | outside isProject isFirst staysProject staysFirst =>
      rw [Node.isNamed, beq_iff_eq] at isProject staysProject
      apply ofRoot_congr (isProject.trans staysProject.symm)
      rw [Node.child?_eq_some_iff.2 isFirst, Node.child?_eq_some_iff.2 staysFirst]
      exact .some (List.forall₂_same.2 fun dependency _ => Alike.refl dependency)
  | @inside space blockSpace name before behind first later dependency changed isFirst isListed
      staysListed sameFields =>
      have found : ∀ inner : List Node,
          Node.child? (.element space name
            (before ++ .element blockSpace "dependencies" inner :: behind)) "dependencies" =
              some (.element blockSpace "dependencies" inner) :=
        fun inner => Node.child?_eq_some_iff.2
          ⟨before, behind, rfl, Node.isNamed_element _ _ _, isFirst⟩
      have unchanged : ∀ nodes : List Node, List.Forall₂ Alike nodes nodes :=
        fun nodes => List.forall₂_same.2 fun node _ => Alike.refl node
      have alike : Alike dependency changed := by
        intro field isField
        rw [field?, field?, Node.child?_eq_of_iff (sameFields field isField)]
      refine ofRoot_congr (by rfl) ?_
      rw [found, found]
      apply Option.Rel.some
      rw [listed, listed, Node.children, Node.children, List.filter_append, List.filter_append,
        List.filter_cons_of_pos isListed, List.filter_cons_of_pos staysListed]
      exact List.rel_append (unchanged _) (.cons alike (unchanged _))

/-- Edits one after another, done or undone, change nothing. -/
theorem ofRoot_eq_of_eqvGen {root changed : Node} (edits : Relation.EqvGen Edit root changed) :
    ofRoot root = ofRoot changed := by
  have oneStep : ∀ before behind, Edit before behind → ofRoot before = ofRoot behind :=
    fun _ _ edit => edit.ofRoot_eq
  exact congrArg (Quot.lift ofRoot oneStep) (Quot.eqvGen_sound edits)

/-! ## Documents -/

theorem extract_congr {text other : String} {root changed : Node}
    (isRoot : Xml.root? text = some root) (isChanged : Xml.root? other = some changed)
    (same : ofRoot root = ofRoot changed) : extract text = extract other := by
  rw [extract, extract, read, read, isRoot, isChanged]
  simp only [same]

theorem extract_of_error {text : String} {root : Node} {fault : Fault}
    (isRoot : Xml.root? text = some root) (failed : ofRoot root = .error fault) :
    extract text = (.empty .java, [unreadable fault]) := by
  rw [extract, read, isRoot]
  simp only [failed]

theorem extract_of_spoiled {text : String} (spoiled : Spoiled (Xml.root? text)) :
    ∃ event, extract text = (.empty .java, [event]) ∧ event.severity = .warn := by
  cases isRoot : Xml.root? text with
  | none =>
      rw [extract, read, isRoot]
      exact ⟨_, rfl, rfl⟩
  | some root =>
      rw [isRoot] at spoiled
      cases made : ofRoot root with
      | ok identifiers => exact absurd made (not_ok_of_spoiled spoiled identifiers)
      | error fault => exact ⟨_, extract_of_error isRoot made, rfl⟩

theorem extract_of_ok {text : String} {root : Node} {identifiers : List String}
    (isRoot : Xml.root? text = some root) (made : ofRoot root = .ok identifiers) :
    extract text = (.ofContext ⟨identifiers⟩ .java, []) := by
  have readHere : read text = .ok identifiers := by
    rw [read, isRoot]
    exact made
  have nonempty : ∀ identifier ∈ identifiers, identifier ≠ "" := by
    rintro _ member rfl
    obtain ⟨group, artifact, whole, -⟩ := isCoordinate_of_mem_read readHere _ member
    simp at whole
  have kept : (Context.ofList identifiers).identifiers = identifiers := by
    rw [Context.identifiers_ofList, List.filter_eq_self]
    exact fun identifier member => decide_eq_true (nonempty identifier member)
  have whole : Context.ofList identifiers = ⟨identifiers⟩ :=
    congrArg Context.mk kept
  rw [extract, readHere]
  simp only [whole]

theorem extract_of_sound {text : String} (sound : ¬ Spoiled (Xml.root? text)) :
    ∃ root block identifiers, Xml.root? text = some root ∧
      root.IsFirstChild "dependencies" block ∧
      List.Forall₂ Identifies (listed block) identifiers ∧
      extract text = (.ofContext ⟨identifiers⟩ .java, []) := by
  cases isRoot : Xml.root? text with
  | none => exact absurd (isRoot ▸ .malformed) sound
  | some root =>
      rw [isRoot] at sound
      obtain ⟨block, identifiers, isFirst, each, made⟩ := exists_ok_of_not_spoiled sound
      exact ⟨root, block, identifiers, rfl, isFirst, each, extract_of_ok isRoot made⟩

/-! ## Short documents -/

/-- A project with one dependency. -/
def single : String :=
  "<project><dependencies><dependency><groupId> g </groupId><artifactId>a</artifactId>" ++
    "</dependency></dependencies></project>"

/-- The same dependency with a second group, in a project of a namespace with a parent. -/
def edited : String :=
  "<m:project xmlns:m='u'><parent/><dependencies><dependency><groupId> g </groupId>" ++
    "<artifactId>a</artifactId><groupId>h</groupId></dependency></dependencies></m:project>"

/-- A dependency with a group, an artifact and what stands behind them. -/
def dependencyWith (behind : List Node) : Node :=
  .element none "dependency"
    (.element none "groupId" [.text " g "] :: .element none "artifactId" [.text "a"] :: behind)

/-- A project whose only block has one dependency. -/
def project (space : Option String) (before behind : List Node) : Node :=
  .element space "project" (before ++ [.element none "dependencies" [dependencyWith behind]])

def secondGroup : Node :=
  .element none "groupId" [.text "h"]

theorem roots : Xml.root? single = some (project none [] []) ∧
    Xml.root? edited = some (project (some "u") [.element none "parent" []] [secondGroup]) := by
  decide +kernel

theorem edit_second_group : Edit (project none [] []) (project none [] [secondGroup]) := by
  have sameFields : ∀ field ∈ fields, ∀ child,
      (dependencyWith []).IsFirstChild field child ↔
        (dependencyWith [secondGroup]).IsFirstChild field child := by
    intro field isField child
    rw [← Node.child?_eq_some_iff, ← Node.child?_eq_some_iff]
    rcases List.mem_pair.1 isField with rfl | rfl <;> rfl
  exact @Edit.inside none none "project" [] [] [] [] _ _ (by simp) (by decide) (by decide)
    sameFields

theorem edit_parent :
    Edit (project none [] [secondGroup]) (project none [.element none "parent" []] [secondGroup]) :=
  .outside (by decide) (Node.child?_eq_some_iff.1 rfl) (by decide) (Node.child?_eq_some_iff.1 rfl)

/-- A document gives the identifiers of the dependencies in its first own block, in order and with
repetitions, or else nothing and is reported. Neither namespaces nor what edits change matters. -/
theorem reads_own_dependencies (text : String) :
    (Spoiled (Xml.root? text) →
      ∃ event, extract text = (.empty .java, [event]) ∧ event.severity = .warn) ∧
    (¬ Spoiled (Xml.root? text) →
      ∃ root block identifiers, Xml.root? text = some root ∧
        root.IsFirstChild "dependencies" block ∧
        List.Forall₂ Identifies (listed block) identifiers ∧
        extract text = (.ofContext ⟨identifiers⟩ .java, [])) ∧
    ∀ root changed other, Xml.root? text = some root → Xml.root? other = some changed →
      Relation.EqvGen Edit root changed → extract other = extract text := by
  refine ⟨extract_of_spoiled, extract_of_sound, ?_⟩
  intro root changed other isRoot isChanged edits
  exact (extract_congr isRoot isChanged (ofRoot_eq_of_eqvGen edits)).symm

/-- A root in a namespace, a parent and a second group in the other document. -/
theorem reads_own_dependencies_edited :
    (∃ event, extract "<pom/>" = (.empty .java, [event]) ∧ event.severity = .warn) ∧
      (∃ root block identifiers, Xml.root? single = some root ∧
        root.IsFirstChild "dependencies" block ∧
        List.Forall₂ Identifies (listed block) identifiers ∧
        extract single = (.ofContext ⟨identifiers⟩ .java, [])) ∧
      extract edited = extract single := by
  have spoiled : Spoiled (Xml.root? "<pom/>") := by
    have isRoot : Xml.root? "<pom/>" = some (.element none "pom" []) := rfl
    rw [isRoot]
    exact .otherRoot (by decide)
  have sound : ¬ Spoiled (Xml.root? single) := by
    rw [roots.1]
    exact fun spoiled => not_ok_of_spoiled spoiled ["g:a"] rfl
  refine ⟨(reads_own_dependencies _).1 spoiled, (reads_own_dependencies _).2.1 sound, ?_⟩
  refine (reads_own_dependencies single).2.2 _ _ edited roots.1 roots.2 ?_
  have inNamespace : Edit (project none [.element none "parent" []] [secondGroup])
      (project (some "u") [.element none "parent" []] [secondGroup]) :=
    .namespaces (by simp [project, Node.withoutNamespaces])
  exact .trans _ _ _ (.rel _ _ edit_second_group)
    (.trans _ _ _ (.rel _ _ edit_parent) (.rel _ _ inNamespace))

end LibraryScout.Manifest.Pom
