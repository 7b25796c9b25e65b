import LibraryScout.CommandLine.Usage
import LibraryScout.Program.Handlers
import LibraryScout.Settings.RandomKey

/-!
Contract: the command line over the files and the environment of the system.

Owns:
- what a command can see: the files that it names or finds below a directory, the ignore files that
  bear on them, and the directory of the user's key;
- printing what a run printed and reported, and keeping a key that was made.

Does not own: what a command does, and a transport for requests: the network here reaches no one.
-/

namespace LibraryScout.Main

open LibraryScout.CommandLine LibraryScout.Files

/-- The environment variables that settings may come from. -/
def variableNames : List String :=
  ["COMPASS_SERVER_URL", "COMPASS_PROXY", "COMPASS_USER_KEY", "COMPASS_REQUEST_TIMEOUT",
    "COMPASS_LOG_LEVEL", "COMPASS_LOG_JSON", "RUST_LOG", "XDG_CONFIG_HOME", "HOME"]

def environment : IO Settings.Environment :=
  variableNames.filterMapM fun name => do
    return (← IO.getEnv name).map fun value => (name, value)

/-! ## Files -/

/-- What is at a path, if anything is. -/
def typeOf? (path : String) : IO (Option IO.FS.FileType) := do
  try
    return some (← (← IO.FS.realPath path).metadata).type
  catch _ =>
    return none

/-- The system's text for a refusal. -/
def refusalText : IO.Error → String
  | .permissionDenied _ code details => details ++ " (os error " ++ toString code ++ ")"
  | other => toString other

/-- What is in the file at a path. Of a file that the system refuses to open only the number of
bytes is known, and nobody looks at more. -/
def contentsAt (names : List String) : IO Contents := do
  let path := Store.pathText names
  try
    return ⟨← IO.FS.readBinFile path, none⟩
  catch error =>
    let size := (← (← IO.FS.realPath path).metadata).byteSize
    return ⟨⟨Array.replicate size.toNat 0⟩, some (refusalText error)⟩

/-- The tree with the file at a path. -/
def withFile (root : Node) (names : List String) : IO Node := do
  return root.put names (.file (← contentsAt names))

/-- The tree with the directories that parts of a path lead through and with the file they end
at. -/
def observe (root : Node) (reached : List String) : List String → IO Node
  | [] => return root
  | part :: later => do
      if part = "" ∨ part = "." then
        observe root reached later
      else if part = ".." then
        observe root reached.dropLast later
      else
        let names := reached ++ [part]
        match ← typeOf? (Store.pathText names) with
        | some .dir =>
            let seen := if (root.at? names).isSome then root else root.put names .emptyDirectory
            observe seen names later
        | some .file => withFile root names
        | _ => return root

/-- The store with what is at a path. -/
def observePath (store : Store) (path : String) : IO Store := do
  return { store with root := ← observe store.root (store.start path) (Store.parts path) }

/-- The names of the files that hold ignore rules. -/
def ruleFiles : List String :=
  [Ignore.Level.generalFile, Ignore.Level.versionedFile]

/-- The entries of the directory at a path, or the system's text for refusing to list them. -/
def entriesAt (names : List String) : IO (Except String (Array IO.FS.DirEntry)) := do
  try
    return .ok (← (← IO.FS.realPath (Store.pathText names)).readDir)
  catch error =>
    return .error (refusalText error)

/-- The tree with what is in a directory, down to a depth. Links are not followed, and files of no
use to a scan are left out. -/
def observeBelow (root : Node) (names : List String) : Nat → IO Node
  | 0 => return root
  | depth + 1 => do
      match ← entriesAt names with
      | .error refusal => return root.put names (.closedDirectory refusal)
      | .ok entries =>
          entries.foldlM (fun seen entry => do
              let place := names ++ [entry.fileName]
              match (← entry.path.symlinkMetadata).type with
              | .dir => observeBelow (seen.put place .emptyDirectory) place depth
              | .file =>
                  if (Source.classify entry.fileName).isSupported ∨
                      entry.fileName ∈ ruleFiles then
                    withFile seen place
                  else
                    return seen
              | _ => return seen)
            root

/-- The tree with the ignore files of the directories above a place. -/
def observeRules (root : Node) (names : List String) : IO Node :=
  ((List.range names.length).flatMap fun depth =>
      ruleFiles.map fun file => (names.take depth, file)).foldlM
    (fun seen (above, file) => observe seen above [file]) root

/-- The store with a directory that is to be scanned. -/
def observeDirectory (store : Store) (path : String) (depth : Nat) : IO Store := do
  let seen ← observePath store path
  match seen.find path with
  | .ok (names, .directory _) =>
      return { seen with root := ← observeBelow (← observeRules seen.root names) names depth }
  | _ => return seen

/-! ## One run -/

/-- The file for the user's key. -/
def keyPath? (environment : Settings.Environment) : Option String :=
  (Settings.Keyring.settingsDirectory? environment).map fun base =>
    Settings.Keyring.joinPath
      (Settings.Keyring.joinPath base Settings.Keyring.directoryName) Settings.Keyring.keyFile

/-- The store with all that a command looks at. -/
def observeCommand (store : Store) : Command → IO Store
  | .context files _ _ => files.foldlM observePath store
  | .suggest file _ _ _ _ => observePath store file
  | .categories file _ _ _ _ => observePath store file
  | .scan directory _ maxDepth _ _ => observeDirectory store directory (maxDepth + 1)
  | _ => return store

/-- The world of a command. A run makes no more than one key. -/
def world (command : Command) : IO Program.World := do
  let environment ← environment
  let current ← IO.currentDir
  let names := (Store.parts current.toString).filter fun part => part ≠ ""
  let start : Store := ⟨← observe .emptyDirectory [] names, names⟩
  let withKey ← (keyPath? environment).toList.foldlM observePath start
  let files ← observeCommand withKey command
  let bytes ← IO.getRandomBytes (USize.ofNat Settings.RandomKey.byteCount)
  return ⟨environment, ⟨files, 0, fun _ => Settings.RandomKey.ofBytes bytes.toList⟩, .unreachable⟩

/-- Keeps the key that a run made. -/
def keepKey (before after : Program.World) : IO Unit := do
  match keyPath? after.environment with
  | some path =>
      match after.files.readText path with
      | .ok key =>
          if (before.files.readText path).toOption ≠ some key then
            let place := (Store.splitLast path).map Prod.fst
            place.forM fun directory => IO.FS.createDirAll directory
            IO.FS.writeFile path key
      | .error _ => return ()
  | none => return ()

/-- Carries out an invocation and answers with its exit code. -/
def run (invocation : Invocation) : IO UInt32 := do
  let before ← world invocation.command
  let logging := Program.Logging.of before.environment invocation
  let ran := Program.runAtConsole invocation ⟨before, ""⟩
  keepKey before ran.state.world
  logging.notes.forM fun note => IO.eprintln note
  (logging.shown ran.events).forM fun event =>
    IO.eprintln (if logging.options.json then event.toJson.compact else event.line logging.options)
  IO.print ran.state.output
  return UInt32.ofNat ran.value

end LibraryScout.Main

def main (arguments : List String) : IO UInt32 := do
  match LibraryScout.CommandLine.parse arguments with
  | .ok invocation => LibraryScout.Main.run invocation
  | .error refusal =>
      if refusal.exitCode = 0 then
        IO.println refusal.message
      else
        IO.eprintln refusal.message
      return UInt32.ofNat refusal.exitCode
