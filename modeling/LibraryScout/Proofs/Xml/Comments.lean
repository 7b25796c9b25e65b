import LibraryScout.Proofs.Xml.Node
import Mathlib.Data.List.Forall2

/-!
Contract: trees before and after comments are put in.

Owns:
- `Sprinkled`, comments between the nodes of a list and inside its texts;
- `Commented`, comments anywhere below a node;
- that elements are found where they were found before, while the text that an element starts with
  may lose its end.
-/

namespace LibraryScout.Xml

/-- The same nodes, each with a related one in its place, and comments anywhere: between two of
them, at either end, or where a text is cut into two. -/
inductive Sprinkled (R : Node → Node → Prop) : List Node → List Node → Prop where
  | nil : Sprinkled R [] []
  | kept {node changed : Node} {nodes others : List Node} (related : R node changed)
      (later : Sprinkled R nodes others) : Sprinkled R (node :: nodes) (changed :: others)
  | comment {content : String} {nodes others : List Node} (later : Sprinkled R nodes others) :
      Sprinkled R nodes (.comment content :: others)
  | cut {front back content : String} {nodes others : List Node}
      (later : Sprinkled R (.text back :: nodes) others) :
      Sprinkled R (.text (front ++ back) :: nodes) (.text front :: .comment content :: others)

/-- The node with comments put in anywhere among its children, their children and so on. -/
inductive Commented : Node → Node → Prop where
  | same (node : Node) : Commented node node
  | element {space : Option String} {name : String} {children changed : List Node}
      (sprinkled : Sprinkled Commented children changed) :
      Commented (.element space name children) (.element space name changed)

namespace Sprinkled

variable {R : Node → Node → Prop} {nodes others : List Node}

theorem refl (reflexive : ∀ node, R node node) (nodes : List Node) : Sprinkled R nodes nodes := by
  induction nodes with
  | nil => exact .nil
  | cons node later inductionHypothesis => exact .kept (reflexive node) inductionHypothesis

variable (sameName : ∀ node changed, R node changed → node.name? = changed.name?)

include sameName

/-- The first elements of a name are related. -/
theorem find? (sprinkled : Sprinkled R nodes others) (name : String) :
    Option.Rel R (nodes.find? (Node.isNamed name)) (others.find? (Node.isNamed name)) := by
  induction sprinkled with
  | nil => exact .none
  | @kept node changed nodes others related later inductionHypothesis =>
      have same : node.isNamed name = changed.isNamed name := by
        rw [Node.isNamed, Node.isNamed, sameName _ _ related]
      by_cases named : changed.isNamed name = true
      · rw [List.find?_cons_of_pos (same.trans named), List.find?_cons_of_pos named]
        exact .some related
      · rw [List.find?_cons_of_neg (same ▸ named), List.find?_cons_of_neg named]
        exact inductionHypothesis
  | comment later inductionHypothesis => exact inductionHypothesis
  | cut later inductionHypothesis => exact inductionHypothesis

/-- The elements of a name are related one by one. -/
theorem filter (sprinkled : Sprinkled R nodes others) (name : String) :
    List.Forall₂ R (nodes.filter (Node.isNamed name)) (others.filter (Node.isNamed name)) := by
  induction sprinkled with
  | nil => exact .nil
  | @kept node changed nodes others related later inductionHypothesis =>
      have same : node.isNamed name = changed.isNamed name := by
        rw [Node.isNamed, Node.isNamed, sameName _ _ related]
      by_cases named : changed.isNamed name = true
      · rw [List.filter_cons_of_pos (same.trans named), List.filter_cons_of_pos named]
        exact .cons related inductionHypothesis
      · rw [List.filter_cons_of_neg (same ▸ named), List.filter_cons_of_neg named]
        exact inductionHypothesis
  | comment later inductionHypothesis => exact inductionHypothesis
  | cut later inductionHypothesis => exact inductionHypothesis

end Sprinkled

namespace Commented

variable {node changed : Node} (commented : Commented node changed)

include commented

theorem name?_eq : node.name? = changed.name? := by
  cases commented <;> rfl

theorem isNamed_eq (name : String) : node.isNamed name = changed.isNamed name := by
  rw [Node.isNamed, Node.isNamed, commented.name?_eq]

theorem children : Sprinkled Commented node.children changed.children := by
  cases commented with
  | same => exact .refl .same _
  | element sprinkled => exact sprinkled

theorem child? (name : String) : Option.Rel Commented (node.child? name) (changed.child? name) :=
  commented.children.find? (fun _ _ related => related.name?_eq) name

/-- The first child of a name stays the first one, with comments put in. -/
theorem firstChild {name : String} {child : Node} (isFirst : node.IsFirstChild name child) :
    ∃ other, changed.IsFirstChild name other ∧ Commented child other := by
  have children := commented.child? name
  rw [Node.child?_eq_some_iff.2 isFirst] at children
  generalize isOther : changed.child? name = found at children
  cases children with
  | some related => exact ⟨_, Node.child?_eq_some_iff.1 isOther, related⟩

theorem firstChild_before {name : String} {other : Node}
    (isFirst : changed.IsFirstChild name other) :
    ∃ child, node.IsFirstChild name child ∧ Commented child other := by
  have children := commented.child? name
  rw [Node.child?_eq_some_iff.2 isFirst] at children
  generalize isChild : node.child? name = found at children
  cases children with
  | some related => exact ⟨_, Node.child?_eq_some_iff.1 isChild, related⟩

theorem childrenNamed (name : String) :
    List.Forall₂ Commented (node.children.filter (Node.isNamed name))
      (changed.children.filter (Node.isNamed name)) :=
  commented.children.filter (fun _ _ related => related.name?_eq) name

/-- The text that an element starts with is one that it started with before, up to a point. -/
theorem leadingText?_prefix {short : String} (leading : changed.leadingText? = some short) :
    ∃ text, node.leadingText? = some text ∧ short.toList <+: text.toList := by
  cases commented with
  | same => exact ⟨short, leading, List.prefix_refl _⟩
  | element sprinkled =>
      cases sprinkled with
      | nil => cases leading
      | kept related later =>
          cases related with
          | same =>
              rw [Node.leadingText?_cons] at leading
              exact ⟨short, (Node.leadingText?_cons ..).trans leading, List.prefix_refl _⟩
          | element => cases leading
      | comment later => cases leading
      | @cut front back content nodes others later =>
          obtain rfl := Option.some.inj leading
          exact ⟨_, rfl, by simp⟩

end Commented

end LibraryScout.Xml
