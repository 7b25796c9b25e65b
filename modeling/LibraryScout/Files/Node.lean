/-!
Contract: trees of files.

Owns:
- why a file or a directory cannot be used, and the system's text for it;
- files, which the system may refuse to open;
- trees of files, in which it may refuse to let a directory be listed or searched.

A directory lists its entries in the order of their names, which is also the order of the UTF-8
bytes of the names; `Entries.insert` keeps that order.
-/

namespace LibraryScout.Files

/-! ## Faults -/

inductive Fault where
  | missing
  | alreadyThere
  | notDirectory
  | isDirectory
  | nameTooLong
  | notText
  | zeroByte
  /-- The system refuses, for reasons of its own. -/
  | refused (text : String)
deriving DecidableEq, Repr

/-- The text of a fault; faults the system itself found carry its number for them. -/
def Fault.message : Fault → String
  | missing => "No such file or directory (os error 2)"
  | alreadyThere => "File exists (os error 17)"
  | notDirectory => "Not a directory (os error 20)"
  | isDirectory => "Is a directory (os error 21)"
  | nameTooLong => "File name too long (os error 36)"
  | notText => "stream did not contain valid UTF-8"
  | zeroByte => "file name contained an unexpected NUL byte"
  | refused text => text

/-- The system's text when a user lacks the permission for something. -/
def noPermission : String :=
  "Permission denied (os error 13)"

/-! ## Files -/

/-- What a file holds, and whether the system lets it be opened. -/
structure Contents where
  held : ByteArray
  /-- The system's text for refusing to open the file, if it does. -/
  refusal? : Option String

instance : Coe ByteArray Contents :=
  ⟨fun held => ⟨held, none⟩⟩

namespace Contents

/-- The number of bytes, which the system tells of every file. -/
def size (contents : Contents) : Nat :=
  contents.held.size

/-- The text that is read, or why there is none. -/
def text (contents : Contents) : Except Fault String :=
  match contents.refusal? with
  | some refusal => .error (.refused refusal)
  | none =>
      match String.fromUTF8? contents.held with
      | some text => .ok text
      | none => .error .notText

end Contents

/-! ## Trees -/

/-- A file, or a directory with its named entries. -/
inductive Node where
  | file (contents : Contents)
  | directory (entries : List (String × Node))
  /-- A directory that the system lets no one list or search, and its text for that. -/
  | closedDirectory (refusal : String)

/-- The entries of a directory. -/
abbrev Entries :=
  List (String × Node)

namespace Entries

/-- The entry with a name. -/
def get? (entries : Entries) (name : String) : Option Node :=
  entries.lookup name

/-- Gives a name a node, in its place in the order. -/
def insert (entries : Entries) (name : String) (node : Node) : Entries :=
  match entries with
  | [] => [(name, node)]
  | (present, held) :: others =>
      if name = present then (name, node) :: others
      else if name < present then (name, node) :: (present, held) :: others
      else (present, held) :: insert others name node

end Entries

namespace Node

def emptyDirectory : Node :=
  .directory []

def isDirectory : Node → Bool
  | .directory _ => true
  | .closedDirectory _ => true
  | .file _ => false

/-- Why nothing can be written in place of a node, if there is a reason. -/
def writeFault? : Node → Option Fault
  | .file contents => contents.refusal?.map .refused
  | _ => some .isDirectory

/-- The entries that can be found in a node: those of a directory that is not closed. -/
def entries : Node → Entries
  | .directory entries => entries
  | _ => []

/-- The node at the end of a path of names. -/
def at? (node : Node) : List String → Option Node
  | [] => some node
  | name :: names =>
      match node.entries.get? name with
      | some inner => inner.at? names
      | none => none

/-- The tree with a node put at the end of a path; directories that are missing on the way are
made, and a file on the way gives way to a directory. -/
def put (node : Node) (path : List String) (placed : Node) : Node :=
  match path with
  | [] => placed
  | name :: names =>
      let inner := (node.entries.get? name).getD emptyDirectory
      .directory (node.entries.insert name (inner.put names placed))

end Node

end LibraryScout.Files
