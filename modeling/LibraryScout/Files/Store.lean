import LibraryScout.Files.Node
import LibraryScout.Text.Lines

/-!
Contract: a tree of files with a working directory, and what paths mean in it.

Owns:
- finding what a path names: a path that does not start with a slash starts at the working
  directory, empty parts and single dots stay where they are, two dots go to the directory above,
  and every part but the last must be a directory that can be searched;
- reading files, making directories and writing files.

Does not own: links, which these trees do not have, and permissions finer than those to open a file
or a directory: what is closed is closed to readers and writers alike.
-/

namespace LibraryScout.Files

structure Store where
  root : Node
  workingDirectory : List String

namespace Store

def empty : Store :=
  ⟨.emptyDirectory, []⟩

/-- The absolute path that names lead to. -/
def pathText (names : List String) : String :=
  "/" ++ Text.joined "/" names

/-- The longest name the system takes, in bytes. -/
def longestName : Nat :=
  255

/-- The longest path the system takes, in bytes. -/
def longestPath : Nat :=
  4095

/-- The parts of a path between slashes. -/
def parts (path : String) : List String :=
  (Text.cut '/' path.toList).map String.ofList

/-- The names that lead from the root to what the parts of a path name, starting from a place
already reached. -/
def follow (store : Store) (reached : List String) :
    List String → Except Fault (List String)
  | [] => .ok reached
  | part :: later =>
      match store.root.at? reached with
      | some (.directory entries) =>
          if part = "" ∨ part = "." then follow store reached later
          else if part = ".." then follow store reached.dropLast later
          else if longestName < part.utf8ByteSize then .error .nameTooLong
          else
            match Entries.get? entries part with
            | some _ => follow store (reached ++ [part]) later
            | none => .error .missing
      | some (.closedDirectory refusal) =>
          if part = "" then follow store reached later else .error (.refused refusal)
      | some (.file _) => .error .notDirectory
      | none => .error .missing

/-- Where a path starts. -/
def start (store : Store) (path : String) : List String :=
  if path.startsWith "/" then [] else store.workingDirectory

/-- The names that lead from the root to what a path names. -/
def resolve (store : Store) (path : String) : Except Fault (List String) :=
  if '\x00' ∈ path.toList then .error .zeroByte
  else if path = "" then .error .missing
  else if longestPath < path.utf8ByteSize then .error .nameTooLong
  else store.follow (store.start path) (parts path)

/-- What a path names, with the names that lead to it. -/
def find (store : Store) (path : String) : Except Fault (List String × Node) := do
  let names ← store.resolve path
  match store.root.at? names with
  | some node => return (names, node)
  | none => .error .missing

/-- What a path names is what the names that it leads through lead to. -/
theorem at?_of_find {store : Store} {path : String} {names : List String} {node : Node}
    (finds : store.find path = .ok (names, node)) : store.root.at? names = some node := by
  rw [find] at finds
  cases resolves : store.resolve path with
  | error fault => simp [resolves, bind, Except.bind] at finds
  | ok reached =>
      simp only [resolves, bind, Except.bind] at finds
      split at finds
      next held leads =>
        obtain ⟨rfl, rfl⟩ := Prod.mk.inj (Except.ok.inj finds)
        exact leads
      next => exact absurd finds (by simp)

/-- Whether a path names a directory. -/
def hasDirectory (store : Store) (path : String) : Bool :=
  match store.find path with
  | .ok (_, node) => node.isDirectory
  | .error _ => false

/-- The text of a file. -/
def readText (store : Store) (path : String) : Except Fault String := do
  match ← store.find path with
  | (_, .directory _) => .error .isDirectory
  | (_, .closedDirectory refusal) => .error (.refused refusal)
  | (_, .file contents) => contents.text

/-- A path without the slashes at its end and the single dots between them. -/
def trimmedParts (path : String) : List String :=
  ((parts path).reverse.dropWhile fun part => part = "" ∨ part = ".").reverse

/-- The directory in which the last part of a path is to be made, and that part. The path
`parent` gives for a path without a slash is the empty one, the working directory. -/
def splitLast (path : String) : Option (String × String) :=
  match (trimmedParts path).reverse with
  | [] => none
  | last :: before =>
      let above := Text.joined "/" before.reverse
      some (if above = "" ∧ path.startsWith "/" then "/" else above, last)

/-- The names that lead to the place where a path's last part is or is to be made. -/
def placeOf (store : Store) (path : String) : Except Fault (List String × String) :=
  if '\x00' ∈ path.toList then .error .zeroByte
  else if longestPath < path.utf8ByteSize then .error .nameTooLong
  else
    match splitLast path with
    | none => .error (if path = "" then .missing else .alreadyThere)
    | some (above, last) => do
        let reached ← store.follow (store.start path) (parts above)
        match store.root.at? reached with
        | some (.directory _) =>
            if longestName < last.utf8ByteSize then .error .nameTooLong else return (reached, last)
        | some (.closedDirectory refusal) => .error (.refused refusal)
        | some (.file _) => .error .notDirectory
        | none => .error .missing

/-- Makes one directory. -/
def makeDirectory (store : Store) (path : String) : Except Fault Store := do
  let (above, last) ← store.placeOf path
  if last = ".." then
    .error .alreadyThere
  else
    match store.root.at? (above ++ [last]) with
    | some _ => .error .alreadyThere
    | none => return { store with root := store.root.put (above ++ [last]) .emptyDirectory }

/-- Makes a directory and those above it that are missing. `depth` bounds how many are missing,
and no more can be missing than the path has parts. -/
def makeDirectoriesWithin (store : Store) (path : String) : Nat → Except Fault Store
  | 0 => .ok store
  | depth + 1 =>
      if path = "" then
        .ok store
      else
        match store.makeDirectory path with
        | .ok made => .ok made
        | .error .missing =>
            match splitLast path with
            | none => .error .missing
            | some (above, _) => do
                let made ← store.makeDirectoriesWithin above depth
                match made.makeDirectory path with
                | .ok done => return done
                | .error fault => if made.hasDirectory path then return made else .error fault
        | .error fault => if store.hasDirectory path then .ok store else .error fault

/-- Makes a directory and those above it that are missing. -/
def makeDirectories (store : Store) (path : String) : Except Fault Store :=
  store.makeDirectoriesWithin path ((parts path).length + 1)

/-- Gives a file a text, and makes the file if its directory is there. -/
def writeText (store : Store) (path : String) (text : String) : Except Fault Store := do
  let (above, last) ← store.placeOf path
  if last = ".." then
    .error .isDirectory
  else
    match (store.root.at? (above ++ [last])).bind Node.writeFault? with
    | some fault => .error fault
    | none => return { store with root := store.root.put (above ++ [last]) (.file text.toUTF8) }

end Store

end LibraryScout.Files
