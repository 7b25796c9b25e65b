import LibraryScout.Proofs.Files.Store
import LibraryScout.Settings.Identity

/-!
Contract: what filling a key into settings comes to.

Owns:
- `KeyPlace`, where settings get their key from;
- `Filled`, all that filling in a key can do to settings and to what is kept;
- that it changes nothing of settings but their key.

Does not own: what is read from a file after it was written.
-/

namespace LibraryScout.Settings

open Keyring

/-- Where settings without a key get one: from a named directory, or from the program's
directory of the user to whom an environment belongs. -/
inductive KeyPlace where
  | named (path : String)
  | personal (environment : Environment)
deriving DecidableEq, Repr

namespace KeyPlace

/-- The directory of the key's file, if there is one. -/
def directory? : KeyPlace → Option String
  | named path => some path
  | personal environment =>
      (settingsDirectory? environment).map fun base => joinPath base directoryName

/-- Settings with the key of a place, unless they have one. -/
def fill (place : KeyPlace) (configuration : Configuration) :
    Run Keyring (Except Fault Configuration) :=
  match place with
  | named path => configuration.withKeyFrom path
  | personal environment => configuration.withPersistedKey environment

end KeyPlace

/-- What becomes of settings into which a key is filled, and of the keys that are kept. -/
inductive Filled (place : KeyPlace) (configuration : Configuration) (keyring : Keyring) :
    Except Fault Configuration → Keyring → Prop where
  | known {key : String} (has : configuration.userKey? = some key) :
      Filled place configuration keyring (.ok configuration) keyring
  | stored {directory key : String} (keyless : configuration.userKey? = none)
      (named : place.directory? = some directory)
      (found : storedKey? keyring.files directory = some key) :
      Filled place configuration keyring (.ok { configuration with userKey? := some key }) keyring
  | created {directory : String} {made written : Files.Store}
      (keyless : configuration.userKey? = none) (named : place.directory? = some directory)
      (nothing : storedKey? keyring.files directory = none)
      (makes : keyring.files.makeDirectories directory = .ok made)
      (writes : made.writeText (joinPath directory keyFile) (keyring.newKey keyring.given) =
        .ok written) :
      Filled place configuration keyring
        (.ok { configuration with userKey? := some (keyring.newKey keyring.given) })
        { keyring with files := written, given := keyring.given + 1 }
  | noDirectory {directory : String} {fault : Files.Fault}
      (keyless : configuration.userKey? = none) (named : place.directory? = some directory)
      (nothing : storedKey? keyring.files directory = none)
      (fails : keyring.files.makeDirectories directory = .error fault) :
      Filled place configuration keyring
        (.error (.userKey (joinPath directory keyFile) fault)) keyring
  | notWritten {directory : String} {made : Files.Store} {fault : Files.Fault}
      (keyless : configuration.userKey? = none) (named : place.directory? = some directory)
      (nothing : storedKey? keyring.files directory = none)
      (makes : keyring.files.makeDirectories directory = .ok made)
      (fails : made.writeText (joinPath directory keyFile) (keyring.newKey keyring.given) =
        .error fault) :
      Filled place configuration keyring
        (.error (.userKey (joinPath directory keyFile) fault)) { keyring with files := made }
  | unkept (keyless : configuration.userKey? = none) (nowhere : place.directory? = none) :
      Filled place configuration keyring
        (.ok { configuration with userKey? := some (keyring.newKey keyring.given) })
        { keyring with given := keyring.given + 1 }

/-- What filling in a key from a directory comes to, at whatever place names the directory. -/
theorem filled_of_withKeyFrom {place : KeyPlace} {directory : String}
    (named : place.directory? = some directory) (configuration : Configuration)
    (keyring : Keyring) :
    let ran := configuration.withKeyFrom directory keyring
    Filled place configuration keyring ran.value ran.state := by
  unfold Configuration.withKeyFrom keyIn createKey
  cases keyless : configuration.userKey? with
  | some key => exact .known keyless
  | none =>
      simp only [Run.bind_apply, Run.read_apply]
      cases found : storedKey? keyring.files directory with
      | some key => exact .stored keyless named found
      | none =>
          cases makes : keyring.files.makeDirectories directory with
          | error fault =>
              simpa [Run.update, makes] using Filled.noDirectory keyless named found makes
          | ok made =>
              cases writes : made.writeText (joinPath directory keyFile)
                  (keyring.newKey keyring.given) with
              | error fault =>
                  simpa [Run.update, makes, writes] using
                    Filled.notWritten keyless named found makes writes
              | ok written =>
                  simpa [Run.update, makes, writes] using
                    Filled.created keyless named found makes writes

/-- Filling in a key does one of these things. -/
theorem KeyPlace.filled (place : KeyPlace) (configuration : Configuration) (keyring : Keyring) :
    let ran := place.fill configuration keyring
    Filled place configuration keyring ran.value ran.state := by
  cases place with
  | named path => exact filled_of_withKeyFrom rfl configuration keyring
  | personal environment =>
      simp only [fill, Configuration.withPersistedKey]
      cases given : settingsDirectory? environment with
      | some base =>
          have named : (personal environment).directory? =
              some (joinPath base directoryName) := by
            rw [directory?, given, Option.map_some]
          exact filled_of_withKeyFrom named configuration keyring
      | none =>
          have nowhere : (personal environment).directory? = none := by
            rw [directory?, given, Option.map_none]
          cases keyless : configuration.userKey? with
          | some key => exact .known keyless
          | none => exact .unkept keyless nowhere

namespace Filled

variable {place : KeyPlace} {configuration filled : Configuration} {keyring after : Keyring}

/-- Nothing of settings changes but their key, which they have afterwards. -/
theorem eq_withKey (fills : Filled place configuration keyring (.ok filled) after) :
    ∃ key, filled = { configuration with userKey? := some key } ∧
      configuration.userKey?.getD key = key := by
  cases fills with
  | @known key has => exact ⟨key, by rw [← has], by rw [has, Option.getD_some]⟩
  | stored keyless | created keyless | unkept keyless =>
      exact ⟨_, rfl, by rw [keyless, Option.getD_none]⟩

/-- Filling in a key fails only in the file of the key. -/
theorem exists_userKey {fault : Fault}
    (fills : Filled place configuration keyring (.error fault) after) :
    ∃ path cause, fault = .userKey path cause := by
  cases fills with
  | noDirectory | notWritten => exact ⟨_, _, rfl⟩

end Filled

/-- Filling in a key does not change the server. -/
theorem KeyPlace.serverUrl_of_fill {place : KeyPlace} {configuration filled : Configuration}
    {keyring : Keyring} (fills : (place.fill configuration keyring).value = .ok filled) :
    filled.serverUrl = configuration.serverUrl := by
  have does := place.filled configuration keyring
  dsimp only at does
  rw [fills] at does
  obtain ⟨key, rfl, -⟩ := does.eq_withKey
  rfl

end LibraryScout.Settings
