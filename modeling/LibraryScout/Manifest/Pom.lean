import LibraryScout.Log.Event
import LibraryScout.Source.Extraction
import LibraryScout.Text.Blank
import LibraryScout.Xml.Document

/-!
Contract: the dependencies of a Maven project.

A project names its own dependencies in its first `dependencies` element. Each `dependency` there
has a group and an artifact, the texts that its first `groupId` and `artifactId` start with. One
dependency without either spoils the whole list. Names are local names.
-/

namespace LibraryScout.Manifest.Pom

open LibraryScout.Source

/-- Why a document names no dependencies. -/
inductive Fault where
  | malformed
  | otherRoot (name : String)
  | noDependencies
  | incomplete (index : Nat) (field : String)
deriving DecidableEq, Repr

/-- The wording of a fault. -/
def Fault.message : Fault → String
  | malformed => "malformed XML"
  | otherRoot name => "root element is <" ++ name ++ ">, expected <project>"
  | noDependencies => "<project> has no <dependencies> element"
  | incomplete index field => "dependency #" ++ toString index ++ " is missing <" ++ field ++ ">"

/-- The trimmed text that the first child of a name starts with, unless it is blank. -/
def field? (dependency : Xml.Node) (name : String) : Option String :=
  match dependency.child? name with
  | none => none
  | some child =>
      match child.leadingText? with
      | none => none
      | some text =>
          let content := Text.trimmed text
          if content = "" then none else some content

/-- Group and artifact of one dependency. -/
def coordinate (index : Nat) (dependency : Xml.Node) : Except Fault String :=
  match field? dependency "groupId" with
  | none => .error (.incomplete index "groupId")
  | some group =>
      match field? dependency "artifactId" with
      | none => .error (.incomplete index "artifactId")
      | some artifact => .ok (group ++ ":" ++ artifact)

/-- The coordinates of dependencies, the first of which has a given index. -/
def coordinates (index : Nat) : List Xml.Node → Except Fault (List String)
  | [] => .ok []
  | dependency :: others =>
      match coordinate index dependency with
      | .error fault => .error fault
      | .ok first => (coordinates (index + 1) others).map (first :: ·)

/-- The dependencies that the root of a document names. -/
def ofRoot (root : Xml.Node) : Except Fault (List String) :=
  if root.isNamed "project" then
    match root.child? "dependencies" with
    | none => .error .noDependencies
    | some block => coordinates 0 (block.children.filter (Xml.Node.isNamed "dependency"))
  else
    .error (.otherRoot (root.name?.getD ""))

/-- The dependencies that a document names. -/
def read (text : String) : Except Fault (List String) :=
  match Xml.root? text with
  | none => .error .malformed
  | some root => ofRoot root

/-- What a document that names no dependencies is reported with. -/
def unreadable (fault : Fault) : Log.Event :=
  (Log.Event.warn .pom "Failed to read dependencies from POM").withText "error" fault.message

/-- The extraction of a document, and what is reported about it. -/
def extract (text : String) : Extraction × List Log.Event :=
  match read text with
  | .ok found => (.ofContext (Context.ofList found) .java, [])
  | .error fault => (.empty .java, [unreadable fault])

end LibraryScout.Manifest.Pom
