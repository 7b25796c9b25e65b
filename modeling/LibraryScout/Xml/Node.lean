/-!
Contract: XML trees, as far as names and text go.

An element has a namespace, where one is bound to it, and a local name. It is looked up by its local
name alone. Attributes are checked when a document is read and are not kept.
-/

namespace LibraryScout.Xml

inductive Node where
  | element (space : Option String) (name : String) (children : List Node)
  | text (content : String)
  | comment (content : String)
  | instruction (target : String)
deriving Repr

namespace Node

mutual

/-- Equality of trees is decided child by child. -/
def decEq : (node other : Node) → Decidable (node = other)
  | element space name children, element space' name' children' =>
      match decEqAll children children' with
      | isTrue same => decidable_of_iff (space = space' ∧ name = name') (by simp [same])
      | isFalse different => isFalse (by simp [different])
  | text content, text other => decidable_of_iff (content = other) (by simp)
  | comment content, comment other => decidable_of_iff (content = other) (by simp)
  | instruction target, instruction other => decidable_of_iff (target = other) (by simp)
  | element .., text _ | element .., comment _ | element .., instruction _ => isFalse nofun
  | text _, element .. | text _, comment _ | text _, instruction _ => isFalse nofun
  | comment _, element .. | comment _, text _ | comment _, instruction _ => isFalse nofun
  | instruction _, element .. | instruction _, text _ | instruction _, comment _ => isFalse nofun

def decEqAll : (nodes others : List Node) → Decidable (nodes = others)
  | [], [] => isTrue rfl
  | [], _ :: _ | _ :: _, [] => isFalse nofun
  | node :: nodes, other :: others =>
      match decEq node other, decEqAll nodes others with
      | isTrue same, isTrue sameLater => isTrue (by rw [same, sameLater])
      | isFalse different, _ => isFalse (by simp [different])
      | _, isFalse different => isFalse (by simp [different])

end

instance : DecidableEq Node := decEq

/-- The local name of an element. -/
def name? : Node → Option String
  | element _ name _ => some name
  | _ => none

/-- An element with a given local name, in any namespace. -/
def isNamed (name : String) (node : Node) : Bool :=
  node.name? == some name

def children : Node → List Node
  | element _ _ children => children
  | _ => []

/-- The text that an element starts with. -/
def leadingText? : Node → Option String
  | element _ _ (text content :: _) => some content
  | _ => none

/-- The first child element with a local name. -/
def child? (node : Node) (name : String) : Option Node :=
  node.children.find? (isNamed name)

end Node

end LibraryScout.Xml
