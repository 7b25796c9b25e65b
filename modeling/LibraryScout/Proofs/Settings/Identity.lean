import LibraryScout.Proofs.Files.Writing
import LibraryScout.Proofs.Settings.Filling

/-!
Contract: users keep their keys.

Owns:
- that the path to the file of a key ends with the name of that file;
- what filling in a key leaves in the files: the key it gave is read back, and no text that was
  read before and is not blank is lost;
- the same along any steps that fill in keys, so that all later steps give the same key;
- the paths for which this fails, those that go up from a directory which is not there yet.

Does not own: how new keys are made.
-/

namespace LibraryScout.Settings

open Keyring

/-! ## The file of a key -/

namespace Keyring

/-- A name put after any path is what the path then ends with. -/
theorem exists_endsWith_joinPath {name : String} (plain : Files.IsPlain name)
    (isName : ¬(name = "" ∨ name = ".") ∧ name ≠ "..")
    (short : name.utf8ByteSize ≤ Files.Store.longestName) (path : String) :
    ∃ front, Files.Store.EndsWith (joinPath path name) front name := by
  have alone : Text.cut '/' name.toList = [name.toList] := Text.cut_of_not_mem plain
  suffices ∃ front, Files.Store.parts (joinPath path name) = front ++ [name] by
    obtain ⟨front, whole⟩ := this
    exact ⟨front, whole, isName, short⟩
  have notAbsolute : ¬name.startsWith "/" = true := by
    rw [String.startsWith_string_iff]
    exact fun slash => plain (slash.subset (by simp))
  unfold joinPath
  rw [if_neg notAbsolute]
  split
  next bare =>
    rw [Bool.or_eq_true, decide_eq_true_eq] at bare
    rcases bare with rfl | slash
    · exact ⟨[], by simp [Files.Store.parts, alone]⟩
    · rw [← String.endsWith_toSlice, String.Slice.endsWith_string_iff] at slash
      obtain ⟨above, same⟩ := slash
      have separated : path.toList = above ++ ['/'] := by simpa using same.symm
      refine ⟨(Text.cut '/' above).map String.ofList, ?_⟩
      rw [Files.Store.parts, String.toList_append, separated, List.append_assoc,
        List.singleton_append, Text.cut_append_separator, alone]
      simp
  next =>
    refine ⟨(Text.cut '/' path.toList).map String.ofList, ?_⟩
    have separated : (path ++ "/" ++ name).toList = path.toList ++ '/' :: name.toList := by simp
    rw [Files.Store.parts, separated, Text.cut_append_separator, alone]
    simp

theorem exists_endsWith_keyFile (directory : String) :
    ∃ front, Files.Store.EndsWith (joinPath directory keyFile) front keyFile :=
  exists_endsWith_joinPath (by decide) (by decide) (by decide) directory

theorem storedKey?_eq_some_iff {files : Files.Store} {directory key : String} :
    storedKey? files directory = some key ↔
      ∃ text, files.readText (joinPath directory keyFile) = .ok text ∧
        Text.trimmed text = key ∧ key ≠ "" := by
  rw [storedKey?]
  cases files.readText (joinPath directory keyFile) with
  | error fault => simp
  | ok text =>
      by_cases blank : Text.trimmed text = ""
      · simp only [blank, if_true, reduceCtorEq, Except.ok.injEq, exists_eq_left', false_iff]
        exact fun both => both.2 both.1.symm
      · simp only [blank, if_false, Option.some.injEq, Except.ok.injEq, exists_eq_left']
        exact ⟨fun same => ⟨same, same ▸ blank⟩, fun both => both.1⟩

/-- The path to the file of a directory's key goes up only from places that are there. -/
def IsAnchored (files : Files.Store) (directory : String) : Prop :=
  files.Anchored (files.start (joinPath directory keyFile))
    (Files.Store.parts (joinPath directory keyFile))

end Keyring

/-- A text that is a key: there is something of it, and no blanks are around it. -/
def IsKey (text : String) : Prop :=
  text ≠ "" ∧ Text.trimmed text = text

instance (text : String) : Decidable (IsKey text) :=
  inferInstanceAs (Decidable (_ ∧ _))

theorem isKey_of_storedKey? {files : Files.Store} {directory key : String}
    (found : storedKey? files directory = some key) : IsKey key := by
  obtain ⟨text, -, rfl, nonempty⟩ := storedKey?_eq_some_iff.1 found
  exact ⟨nonempty, Text.trimmed_trimmed text⟩

/-! ## One step -/

namespace Filled

variable {place : KeyPlace} {configuration filled : Configuration} {keyring after : Keyring}
  {result : Except Fault Configuration}

theorem newKey (fills : Filled place configuration keyring result after) :
    after.newKey = keyring.newKey := by
  cases fills <;> rfl

/-- Settings with a key are not touched, and neither is anything that is kept. -/
theorem eq_of_known (fills : Filled place configuration keyring result after) {key : String}
    (has : configuration.userKey? = some key) : result = .ok configuration ∧ after = keyring := by
  cases fills with
  | known => exact ⟨rfl, rfl⟩
  | stored keyless | created keyless | noDirectory keyless | notWritten keyless
  | unkept keyless => cases has.symm.trans keyless

/-- A key that is there is what settings get, and nothing changes. -/
theorem eq_of_stored (fills : Filled place configuration keyring result after)
    (keyless : configuration.userKey? = none) {directory key : String}
    (named : place.directory? = some directory)
    (found : storedKey? keyring.files directory = some key) :
    result = .ok { configuration with userKey? := some key } ∧ after = keyring := by
  cases fills with
  | known has => cases keyless.symm.trans has
  | stored _ namedToo foundToo =>
      obtain rfl := Option.some.inj (named.symm.trans namedToo)
      obtain rfl := Option.some.inj (found.symm.trans foundToo)
      exact ⟨rfl, rfl⟩
  | created _ namedToo nothing | noDirectory _ namedToo nothing
  | notWritten _ namedToo nothing =>
      obtain rfl := Option.some.inj (named.symm.trans namedToo)
      cases found.symm.trans nothing
  | unkept _ nowhere => cases named.symm.trans nowhere

/-- Without a directory the key is a new one, and no file changes. -/
theorem files_of_nowhere (fills : Filled place configuration keyring result after)
    (nowhere : place.directory? = none) : after.files = keyring.files := by
  cases fills with
  | known | unkept => rfl
  | stored _ named | created _ named | noDirectory _ named | notWritten _ named =>
      cases named.symm.trans nowhere

/-- The key that settings without one get is a key, and is the one in the file from then on. -/
theorem exists_key (fills : Filled place configuration keyring (.ok filled) after)
    (keyless : configuration.userKey? = none) (fresh : IsKey (keyring.newKey keyring.given)) :
    ∃ key, IsKey key ∧ filled = { configuration with userKey? := some key } ∧
      ∀ directory ∈ place.directory?, storedKey? after.files directory = some key := by
  cases fills with
  | known has => cases keyless.symm.trans has
  | stored _ named found =>
      refine ⟨_, isKey_of_storedKey? found, rfl, fun directory namedToo => ?_⟩
      obtain rfl := Option.some.inj (namedToo.symm.trans named)
      exact found
  | created _ named _ _ writes =>
      refine ⟨_, fresh, rfl, fun directory namedToo => ?_⟩
      obtain rfl := Option.some.inj (namedToo.symm.trans named)
      obtain ⟨front, ends⟩ := exists_endsWith_keyFile directory
      exact storedKey?_eq_some_iff.2 ⟨_, ends.readText_of_writeText writes, fresh.2, fresh.1⟩
  | unkept _ nowhere =>
      exact ⟨_, fresh, rfl, fun directory named => by cases nowhere.symm.trans named⟩

/-- No text is lost that was read before and is not blank, whether settings get a key or not. -/
theorem readText_kept (fills : Filled place configuration keyring result after)
    (anchored : ∀ directory ∈ place.directory?, IsAnchored keyring.files directory)
    {path text : String} (reads : keyring.files.readText path = .ok text)
    (notBlank : Text.trimmed text ≠ "") : after.files.readText path = .ok text := by
  cases fills with
  | known | stored | noDirectory | unkept => exact reads
  | notWritten _ _ _ makes =>
      exact (Files.Store.Keeps.makeDirectories makes).readText reads fun _ _ => id
  | @created directory _ _ _ named nothing makes writes =>
      obtain ⟨front, ends⟩ := exists_endsWith_keyFile directory
      have anchoredFront := anchored directory named
      rw [IsAnchored, ends.whole] at anchoredFront
      refine ends.readText_kept (Files.Store.Keeps.makeDirectories makes) anchoredFront.of_append
        writes reads fun readsHere => ?_
      -- a text that is not blank would have been taken for the key
      have found := storedKey?_eq_some_iff.2 ⟨text, readsHere, rfl, notBlank⟩
      cases nothing.symm.trans found

end Filled

/-! ## Steps -/

/-- Settings into which the key of a place is to be filled. -/
structure KeyStep where
  configuration : Configuration
  place : KeyPlace
deriving DecidableEq, Repr

namespace KeyStep

def run (step : KeyStep) : Run Keyring (Except Fault Configuration) :=
  step.place.fill step.configuration

/-- The settings that a step leaves, which are those it had if it fails. -/
def settled (step : KeyStep) (keyring : Keyring) : Configuration :=
  (step.run keyring).value.toOption.getD step.configuration

/-- What is kept after steps, one after another. -/
def keyringAfter : List KeyStep → Keyring → Keyring
  | [], keyring => keyring
  | step :: later, keyring => keyringAfter later (step.run keyring).state

def IsAnchored (step : KeyStep) (keyring : Keyring) : Prop :=
  ∀ directory ∈ step.place.directory?, Keyring.IsAnchored keyring.files directory

/-- Every step is anchored when it is its turn. -/
def AllAnchored : List KeyStep → Keyring → Prop
  | [], _ => True
  | step :: later, keyring => step.IsAnchored keyring ∧ AllAnchored later (step.run keyring).state

theorem allAnchored_append {first second : List KeyStep} {keyring : Keyring} :
    AllAnchored (first ++ second) keyring ↔
      AllAnchored first keyring ∧ AllAnchored second (keyringAfter first keyring) := by
  induction first generalizing keyring with
  | nil => simp [AllAnchored, keyringAfter]
  | cons step later inductionHypothesis =>
      rw [List.cons_append, AllAnchored, AllAnchored, keyringAfter, inductionHypothesis, and_assoc]

theorem newKey_keyringAfter (steps : List KeyStep) (keyring : Keyring) :
    (keyringAfter steps keyring).newKey = keyring.newKey := by
  induction steps generalizing keyring with
  | nil => rfl
  | cons step later inductionHypothesis =>
      rw [keyringAfter, inductionHypothesis]
      exact (step.place.filled step.configuration keyring).newKey

/-- Along any steps no text is lost that was read before and is not blank. -/
theorem readText_keyringAfter {steps : List KeyStep} {keyring : Keyring}
    (anchored : AllAnchored steps keyring) {path text : String}
    (reads : keyring.files.readText path = .ok text) (notBlank : Text.trimmed text ≠ "") :
    (keyringAfter steps keyring).files.readText path = .ok text := by
  induction steps generalizing keyring with
  | nil => exact reads
  | cons step later inductionHypothesis =>
      have fills := step.place.filled step.configuration keyring
      exact inductionHypothesis anchored.2 (fills.readText_kept anchored.1 reads notBlank)

/-- Along any steps a directory's key stays the one it has. -/
theorem storedKey?_keyringAfter {steps : List KeyStep} {keyring : Keyring}
    (anchored : AllAnchored steps keyring) {directory key : String}
    (found : storedKey? keyring.files directory = some key) :
    storedKey? (keyringAfter steps keyring).files directory = some key := by
  obtain ⟨text, reads, rfl, nonempty⟩ := storedKey?_eq_some_iff.1 found
  exact storedKey?_eq_some_iff.2
    ⟨text, readText_keyringAfter anchored reads nonempty, rfl, nonempty⟩

end KeyStep

/-- Users keep their keys. Whatever steps come before and after one: settings that have a key keep
it; settings without one that get a key get the one that is in the file then, and all later
settings without a key get the same from that directory, with nothing being changed; and no file
with a key is lost, whether the step fails or not. For this the paths to the files must not go up
from a place that is not there. -/
theorem identity_stable {keyring : Keyring} (fresh : ∀ count, IsKey (keyring.newKey count))
    {before after : List KeyStep} {step : KeyStep}
    (anchored : KeyStep.AllAnchored (before ++ step :: after) keyring) :
    let reached := KeyStep.keyringAfter before keyring
    let ran := step.run reached
    let left := KeyStep.keyringAfter after ran.state
    (∀ key, step.configuration.userKey? = some key →
      ran.value = .ok step.configuration ∧ ran.state = reached) ∧
    (∀ filled, step.configuration.userKey? = none → ran.value = .ok filled →
      ∃ key, IsKey key ∧ filled = { step.configuration with userKey? := some key } ∧
        (step.place.directory? = none → ran.state.files = reached.files) ∧
        ∀ directory ∈ step.place.directory?,
          (∃ text, ran.state.files.readText (joinPath directory keyFile) = .ok text ∧
            Text.trimmed text = key) ∧
          ∀ other : KeyStep, other.configuration.userKey? = none →
            other.place.directory? = some directory →
            (other.run left).value = .ok { other.configuration with userKey? := some key } ∧
              (other.run left).state = left) ∧
    (∀ fault, ran.value = .error fault → step.settled reached = step.configuration) ∧
    ∀ path text, reached.files.readText path = .ok text → Text.trimmed text ≠ "" →
      ran.state.files.readText path = .ok text ∧ left.files.readText path = .ok text := by
  intro reached ran left
  obtain ⟨-, anchoredHere, anchoredLater⟩ := KeyStep.allAnchored_append.1 anchored
  have fills := step.place.filled step.configuration reached
  have freshHere : IsKey (reached.newKey reached.given) := by
    rw [KeyStep.newKey_keyringAfter before keyring]
    exact fresh reached.given
  refine ⟨fun key has => fills.eq_of_known has, ?_, ?_, ?_⟩
  · intro filled keyless succeeds
    have fillsWell : Filled step.place step.configuration reached (.ok filled) ran.state :=
      succeeds ▸ fills
    obtain ⟨key, isKey, same, stored⟩ := fillsWell.exists_key keyless freshHere
    refine ⟨key, isKey, same, fills.files_of_nowhere, fun directory named => ⟨?_, ?_⟩⟩
    · obtain ⟨text, reads, trims, -⟩ := storedKey?_eq_some_iff.1 (stored directory named)
      exact ⟨text, reads, trims⟩
    · intro other otherKeyless otherNamed
      have found := KeyStep.storedKey?_keyringAfter anchoredLater (stored directory named)
      exact (other.place.filled other.configuration left).eq_of_stored otherKeyless otherNamed found
  · intro fault fails
    have failsToo : (step.run reached).value = .error fault := fails
    rw [KeyStep.settled, failsToo]
    rfl
  · intro path text reads notBlank
    have readsNow := fills.readText_kept anchoredHere reads notBlank
    exact ⟨readsNow, KeyStep.readText_keyringAfter anchoredLater readsNow notBlank⟩

/-- Settings without a key. -/
def withoutKey : Configuration :=
  (Configuration.ofEnvironment []).1

theorem isAnchored_of_not_mem {files : Files.Store} {directory : String}
    (noUp : ".." ∉ Files.Store.parts (joinPath directory keyFile)) : IsAnchored files directory :=
  Files.Store.anchored_of_not_mem _ _ noUp

/-- A key in one directory is not disturbed by a new key in another. -/
theorem identity_stable_beside_another :
    let file : Files.Node := .file " mine\n".toUTF8
    let files : Files.Store := ⟨.directory [("a", .directory [("user_key", file)])], []⟩
    let keyring : Keyring := ⟨files, 0, fun _ => "fresh"⟩
    let step : KeyStep := ⟨withoutKey, .named "/a"⟩
    let later : KeyStep := ⟨withoutKey, .personal [("HOME", "/b")]⟩
    (∀ count, IsKey (keyring.newKey count)) ∧
    KeyStep.AllAnchored ([] ++ [step, later]) keyring ∧
    (step.run keyring).value = .ok { withoutKey with userKey? := some "mine" } ∧
    ∀ other : KeyStep, other.configuration.userKey? = none →
      other.place.directory? = some "/a" →
      (other.run (KeyStep.keyringAfter [step, later] keyring)).value =
        .ok { other.configuration with userKey? := some "mine" } := by
  intro file files keyring step later
  have isKey : IsKey "fresh" := by decide
  have fresh : ∀ count, IsKey (keyring.newKey count) := fun _ => isKey
  have laterNamed : later.place.directory? = some "/b/.config/code-compass" := by decide +kernel
  have anchored : KeyStep.AllAnchored ([] ++ [step, later]) keyring := by
    refine ⟨?_, ?_, trivial⟩
    · rintro directory named
      obtain rfl : "/a" = directory := Option.some.inj named
      exact isAnchored_of_not_mem (by decide +kernel)
    · rintro directory named
      obtain rfl := Option.some.inj (laterNamed.symm.trans named)
      exact isAnchored_of_not_mem (by decide +kernel)
  have gives : (step.run keyring).value = .ok { withoutKey with userKey? := some "mine" } := by
    decide +kernel
  obtain ⟨-, stable, -⟩ := identity_stable fresh anchored
  obtain ⟨key, -, same, -, stays⟩ := stable _ rfl gives
  obtain rfl : "mine" = key := Option.some.inj (congrArg Configuration.userKey? same)
  exact ⟨fresh, anchored, gives, fun other otherKeyless named =>
    ((stays "/a" rfl).2 other otherKeyless named).1⟩

/-- A directory above one that is not there cannot be read from at first. It leads somewhere when
the missing one has been made, and the key that was there is lost. -/
theorem identity_lost_above_missing_directory :
    let file : Files.Node := .file "mine".toUTF8
    let files : Files.Store := ⟨.directory [("code-compass", .directory [("user_key", file)])], []⟩
    let keyring : Keyring := ⟨files, 0, fun _ => "fresh"⟩
    let step : KeyStep := ⟨withoutKey, .personal [("XDG_CONFIG_HOME", "/new/..")]⟩
    (∀ count, IsKey (keyring.newKey count)) ∧
    keyring.files.readText "/code-compass/user_key" = .ok "mine" ∧
    (step.run keyring).state.files.readText "/code-compass/user_key" = .ok "fresh" := by
  intro file files keyring step
  have isKey : IsKey "fresh" := by decide
  exact ⟨fun _ => isKey, by decide +kernel, by decide +kernel⟩

end LibraryScout.Settings
