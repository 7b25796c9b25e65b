import LibraryScout.Xml.Node
import Mathlib.Data.List.Basic

/-!
Contract: what is found among the children of an element.

Owns:
- `IsFirstChild`, the first child element with a local name, and that it is the one looked up;
- `withoutNamespaces`, a tree without its namespaces, in which the same children are found.
-/

namespace LibraryScout.Xml.Node

/-! ## First children -/

/-- A child element with a local name, in front of which no other child has it. -/
def IsFirstChild (node : Node) (name : String) (child : Node) : Prop :=
  ∃ before behind, node.children = before ++ child :: behind ∧ child.isNamed name = true ∧
    ∀ earlier ∈ before, earlier.isNamed name = false

@[simp] theorem isNamed_element (space : Option String) (name : String) (children : List Node) :
    isNamed name (element space name children) = true :=
  beq_self_eq_true (some name)

theorem child?_eq_some_iff {node child : Node} {name : String} :
    node.child? name = some child ↔ node.IsFirstChild name child := by
  rw [child?, List.find?_eq_some_iff_append, IsFirstChild]
  constructor
  · rintro ⟨named, before, behind, whole, noneBefore⟩
    exact ⟨before, behind, whole, named, by simpa using noneBefore⟩
  · rintro ⟨before, behind, whole, named, noneBefore⟩
    exact ⟨named, before, behind, whole, by simpa using noneBefore⟩

theorem child?_eq_none_iff {node : Node} {name : String} :
    node.child? name = none ↔ ∀ child ∈ node.children, child.isNamed name = false := by
  simp [child?]

theorem IsFirstChild.unique {node child other : Node} {name : String}
    (isFirst : node.IsFirstChild name child) (isOther : node.IsFirstChild name other) :
    child = other := by
  rw [← child?_eq_some_iff] at isFirst isOther
  exact Option.some.inj (isFirst.symm.trans isOther)

/-- Nodes with the same first child of a name find the same one, or both none. -/
theorem child?_eq_of_iff {node other : Node} {name : String}
    (same : ∀ child, node.IsFirstChild name child ↔ other.IsFirstChild name child) :
    node.child? name = other.child? name := by
  apply Option.ext
  intro child
  rw [child?_eq_some_iff, child?_eq_some_iff, same]

/-- Only the first child counts for the text that an element starts with. -/
theorem leadingText?_cons (space : Option String) (name : String) (first : Node)
    (others : List Node) :
    (element space name (first :: others)).leadingText? =
      (element none name [first]).leadingText? := by
  cases first <;> rfl

/-! ## Namespaces -/

/-- The tree without its namespaces. -/
def withoutNamespaces : Node → Node
  | element _ name children => element none name (children.map withoutNamespaces)
  | node => node

@[simp] theorem name?_withoutNamespaces (node : Node) :
    node.withoutNamespaces.name? = node.name? := by
  cases node <;> simp [withoutNamespaces, name?]

@[simp] theorem isNamed_withoutNamespaces (node : Node) (name : String) :
    node.withoutNamespaces.isNamed name = node.isNamed name := by
  rw [isNamed, isNamed, name?_withoutNamespaces]

theorem children_withoutNamespaces (node : Node) :
    node.withoutNamespaces.children = node.children.map withoutNamespaces := by
  cases node <;> simp [withoutNamespaces, children]

theorem child?_withoutNamespaces (node : Node) (name : String) :
    node.withoutNamespaces.child? name = (node.child? name).map withoutNamespaces := by
  rw [child?, child?, children_withoutNamespaces, List.find?_map]
  congr 2
  funext child
  exact isNamed_withoutNamespaces child name

theorem leadingText?_withoutNamespaces (node : Node) :
    node.withoutNamespaces.leadingText? = node.leadingText? := by
  cases node with
  | element space name children =>
      cases children with
      | nil => simp [withoutNamespaces, leadingText?]
      | cons first others => cases first <;> simp [withoutNamespaces, leadingText?]
  | text | comment | instruction => simp [withoutNamespaces, leadingText?]

end LibraryScout.Xml.Node
