import LibraryScout.Files.Store
import LibraryScout.Run
import LibraryScout.Settings.Configuration

/-!
Contract: the key by which the service knows a user.

The key is kept in a file of a directory. A file with a key is only read; where there is none, or
only blanks, a new key is made and written. Settings that have a key keep it.
-/

namespace LibraryScout.Settings

/-- The files where keys are kept, and the keys not yet given to anyone. -/
structure Keyring where
  files : Files.Store
  given : Nat
  newKey : Nat → String

namespace Keyring

def keyFile : String :=
  "user_key"

def directoryName : String :=
  "code-compass"

/-- A path with one more name, or the other path alone if it starts at the root. -/
def joinPath (path name : String) : String :=
  if name.startsWith "/" then name
  else if path = "" || path.endsWith "/" then path ++ name
  else path ++ "/" ++ name

/-- The key in a directory's file, if it has one. -/
def storedKey? (files : Files.Store) (directory : String) : Option String :=
  match files.readText (joinPath directory keyFile) with
  | .ok text =>
      let key := Text.trimmed text
      if key = "" then none else some key
  | .error _ => none

/-- Makes a key and writes it into a directory's file. -/
def createKey (directory : String) : Run Keyring (Except Files.Fault String) :=
  Run.update fun keyring =>
    match keyring.files.makeDirectories directory with
    | .error fault => (.error fault, keyring)
    | .ok made =>
        let key := keyring.newKey keyring.given
        match made.writeText (joinPath directory keyFile) key with
        | .error fault => (.error fault, { keyring with files := made })
        | .ok written => (.ok key, { keyring with files := written, given := keyring.given + 1 })

/-- The key in a directory's file, made if there is none. -/
def keyIn (directory : String) : Run Keyring (Except Fault String) := do
  let keyring ← Run.read
  match storedKey? keyring.files directory with
  | some key => return .ok key
  | none =>
      match ← createKey directory with
      | .ok key => return .ok key
      | .error fault => return .error (.userKey (joinPath directory keyFile) fault)

/-- The directory for the settings of the user's programs. -/
def settingsDirectory? (environment : Environment) : Option String :=
  match (environment.get? "XDG_CONFIG_HOME").filter fun path => path.startsWith "/" with
  | some path => some path
  | none =>
      ((environment.get? "HOME").filter fun path => path ≠ "").map fun home =>
        joinPath home ".config"

end Keyring

namespace Configuration

/-- The settings with the key in a directory's file, unless they have a key. -/
def withKeyFrom (configuration : Configuration) (directory : String) :
    Run Keyring (Except Fault Configuration) :=
  match configuration.userKey? with
  | some _ => Run.pure (.ok configuration)
  | none => do
      match ← Keyring.keyIn directory with
      | .ok key => return .ok { configuration with userKey? := some key }
      | .error fault => return .error fault

def noDirectoryEvent : Log.Event :=
  Log.Event.warn .settings "No configuration directory available, using an ephemeral user key"

/-- The settings with the key in the program's own directory, unless they have a key. Without such
a directory a key is made that is not kept. -/
def withPersistedKey (configuration : Configuration) (environment : Environment) :
    Run Keyring (Except Fault Configuration) :=
  match Keyring.settingsDirectory? environment with
  | some base => configuration.withKeyFrom (Keyring.joinPath base Keyring.directoryName)
  | none => do
      Run.report noDirectoryEvent
      match configuration.userKey? with
      | some _ => return .ok configuration
      | none =>
          let key ← Run.update fun keyring =>
            (keyring.newKey keyring.given, { keyring with given := keyring.given + 1 })
          return .ok { configuration with userKey? := some key }

end Configuration

end LibraryScout.Settings
