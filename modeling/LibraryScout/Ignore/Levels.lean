import LibraryScout.Files.Store
import LibraryScout.Ignore.Rules

/-!
Contract: the ignore files that bear on a directory, and their common verdict.

Each directory on the way from the root has a level with the rules of its two ignore files. Of the
files of one name, the innermost with a verdict decides; the verdict of the `.ignore` files comes
before that of the `.gitignore` files. A file that cannot be opened holds no rules, and nobody
complains about it.
-/

namespace LibraryScout.Ignore

/-- The ignore files of one directory. -/
structure Level where
  /-- The number of names on the path to the directory. -/
  depth : Nat
  general : Rules
  versioned : Rules

namespace Level

/-- The name of the files with general rules. -/
def generalFile : String :=
  ".ignore"

/-- The name of the files with the rules for version control. -/
def versionedFile : String :=
  ".gitignore"

/-- The bytes of the ignore file with a name, if there is one that can be opened. -/
def held? (entries : Files.Entries) (name : String) : Option ByteArray :=
  match entries.get? name with
  | some (.file ⟨held, none⟩) => some held
  | _ => none

/-- The rules of the ignore file with a name. -/
def rulesOf (entries : Files.Entries) (name : String) : Rules :=
  ((held? entries name).map Rules.ofContents).getD []

/-- The level of a directory. -/
def ofEntries (depth : Nat) (entries : Files.Entries) : Level :=
  ⟨depth, rulesOf entries generalFile, rulesOf entries versionedFile⟩

/-- The complaints about the ignore file with a name in the directory at a path. -/
def complaintsOf (path : List String) (entries : Files.Entries) (name : String) :
    List Complaint :=
  ((held? entries name).map (Rules.complaints (Files.Store.pathText (path ++ [name])))).getD []

/-- The complaints about the ignore files of the directory at a path. -/
def complaints (path : List String) (entries : Files.Entries) : List Complaint :=
  complaintsOf path entries generalFile ++ complaintsOf path entries versionedFile

end Level

/-- The levels of a directory and of those above it, the innermost first. -/
abbrev Levels :=
  List Level

namespace Levels

/-- The levels of the directories that names lead through, from a node at a depth down. -/
def along (node : Files.Node) (depth : Nat) (outer : Levels) : List String → Levels
  | [] => Level.ofEntries depth node.entries :: outer
  | name :: names =>
      let levels := Level.ofEntries depth node.entries :: outer
      match node.entries.get? name with
      | some inner => along inner (depth + 1) levels names
      | none => levels

/-- The complaints about the ignore files of the directories above the one that names lead to, the
outermost first. -/
def complaintsAbove (root : Files.Node) (names : List String) : List Complaint :=
  (List.range names.length).flatMap fun depth =>
    let above := names.take depth
    ((root.at? above).map fun node => Level.complaints above node.entries).getD []

/-- The bytes of a path below the directory of a level. -/
def pathBelow (level : Level) (path : List String) : Bytes :=
  Bytes.ofChars (Text.joined "/" (path.drop level.depth)).toList

/-- What the ignore files say about a path. -/
def verdict? (levels : Levels) (path : List String) (isDirectory : Bool) : Option Verdict :=
  let first (rules : Level → Rules) : Option Verdict :=
    levels.findSome? fun level => (rules level).verdict? (pathBelow level path) isDirectory
  match first Level.general with
  | some verdict => some verdict
  | none => first Level.versioned

end Levels

end LibraryScout.Ignore
