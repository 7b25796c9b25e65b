import LibraryScout.Ignore.Levels

/-!
Contract: what a scan of a directory meets, in order.

The walk meets the directory itself, then its entries in their order, and what a directory holds
right after the directory. Entries below the depth limit, ignored entries and hidden entries are
passed over with all they hold; a rule that keeps a hidden entry brings it back.

Two things keep a walk from entries and are met in their place: complaints about the ignore files
above the walked directory, before everything else, and directories that cannot be listed, right
after the directory itself. Complaints about the other ignore files are met by no one.
-/

namespace LibraryScout.Scan

/-- How far a walk goes. -/
structure Reach where
  maxDepth : Nat
  hidden : Bool

/-- An entry met on a walk: the names that lead to it and what is there. -/
structure Found where
  path : List String
  node : Files.Node

/-- The last of the names that lead to an entry. -/
def Found.name (found : Found) : String :=
  found.path.getLast?.getD ""

/-- What keeps a walk from entries. -/
inductive Hindrance where
  /-- Lines of ignore files hold no rules. -/
  | badRules (complaints : List Ignore.Complaint)
  /-- The system refuses to list a directory. -/
  | unlisted (path : List String) (refusal : String)
deriving DecidableEq, Repr

def Hindrance.message : Hindrance → String
  | badRules complaints => Text.joined "\n" (complaints.map Ignore.Complaint.message)
  | unlisted path refusal =>
      let place := Files.Store.pathText path
      place ++ ": IO error for operation on " ++ place ++ ": " ++ refusal

/-- What a walk meets at one step. -/
abbrev Item :=
  Except Hindrance Found

/-- A name that starts with a dot. -/
def isHidden (name : String) : Bool :=
  name.startsWith "."

/-- Whether an entry is passed over. -/
def passesOver (reach : Reach) (levels : Ignore.Levels) (path : List String) (name : String)
    (isDirectory : Bool) : Bool :=
  match levels.verdict? path isDirectory with
  | some .ignored => true
  | some .kept => false
  | none => !reach.hidden && isHidden name

/-- What is met at a node itself, from which the walk may go down some further steps: the node, and
that it cannot be listed if the walk would list it. -/
def metAt (path : List String) (steps : Nat) (node : Files.Node) : List Item :=
  .ok ⟨path, node⟩ ::
    match node, steps with
    | .closedDirectory refusal, _ + 1 => [.error (.unlisted path refusal)]
    | _, _ => []

mutual

/-- What is met at and below a node, which is reached by a path and from which the walk may go down
some further steps. -/
def walkNode (reach : Reach) (levels : Ignore.Levels) (path : List String) (steps : Nat) :
    Files.Node → List Item
  | .directory entries =>
      metAt path steps (.directory entries) ++
        walkEntries reach (.ofEntries path.length entries :: levels) path steps entries
  | node => metAt path steps node

/-- What is met at the entries of a directory. -/
def walkEntries (reach : Reach) (levels : Ignore.Levels) (path : List String) (steps : Nat) :
    List (String × Files.Node) → List Item
  | [] => []
  | (name, node) :: others =>
      (match steps with
        | 0 => []
        | fewer + 1 =>
            if passesOver reach levels (path ++ [name]) name node.isDirectory then []
            else walkNode reach levels (path ++ [name]) fewer node) ++
        walkEntries reach levels path steps others

end

/-- What is met at and below the node that names lead to from the root of a tree. -/
def descend (reach : Reach) (root : Files.Node) (path : List String) : List Item :=
  match root.at? path with
  | some node =>
      metAt path reach.maxDepth node ++
        walkEntries reach (Ignore.Levels.along root 0 [] path) path reach.maxDepth node.entries
  | none => []

/-- The complaints about the ignore files above a directory, if there are any. -/
def rulesAbove (root : Files.Node) (path : List String) : List Item :=
  match Ignore.Levels.complaintsAbove root path with
  | [] => []
  | complaints => [.error (.badRules complaints)]

/-- What a walk of the directory meets that names lead to from the root of a tree. -/
def walk (reach : Reach) (root : Files.Node) (path : List String) : List Item :=
  rulesAbove root path ++ descend reach root path

end LibraryScout.Scan
