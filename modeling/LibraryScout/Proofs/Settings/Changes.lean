import LibraryScout.Proofs.Host.PlainNames
import LibraryScout.Proofs.Settings.Filling
import LibraryScout.Proofs.Settings.NormalForm

/-!
Contract: the server of settings is in normal form, whatever is changed in them.

Owns:
- `Change`, the changes that callers make to settings, and settings after many of them;
- `HasNormalServer`, which holds of settings from an environment and is kept by every change;
- that such settings have no fault in their server.

Does not own: faults of other settings.
-/

namespace LibraryScout.Settings

/-! ## Changes -/

/-- A change to settings: another server, or a key where there is none. -/
inductive Change where
  | server (text : String)
  | key (place : KeyPlace)
deriving DecidableEq, Repr

namespace Change

/-- The server that a change names. -/
def serverText? : Change → Option String
  | server text => some text
  | key _ => none

def apply (change : Change) (configuration : Configuration) :
    Run Keyring (Except Fault Configuration) :=
  match change with
  | server text => pure (configuration.withServer text)
  | key place => place.fill configuration

/-- Settings after changes, made one after another. A change that fails leaves them as they are. -/
def applyAll : List Change → Configuration → Run Keyring Configuration
  | [], configuration => pure configuration
  | change :: later, configuration => do
      match ← change.apply configuration with
      | .ok changed => applyAll later changed
      | .error _ => applyAll later configuration

theorem applyAll_append (first second : List Change) (configuration : Configuration)
    (keyring : Keyring) :
    let ran := applyAll first configuration keyring
    (applyAll (first ++ second) configuration keyring).value =
      (applyAll second ran.value ran.state).value := by
  induction first generalizing configuration keyring with
  | nil => rfl
  | cons change later inductionHypothesis =>
      rw [List.cons_append, applyAll, applyAll]
      simp only [Run.bind_apply]
      cases (change.apply configuration keyring).value with
      | error fault => exact inductionHypothesis _ _
      | ok changed => exact inductionHypothesis _ _

end Change

/-! ## The server -/

namespace Configuration

/-- The server of settings is its own normal form. -/
def HasNormalServer (configuration : Configuration) : Prop :=
  normalizeServer configuration.serverUrl = .ok configuration.serverUrl

def defaultHost : String :=
  "www.code-compass.com"

theorem isPlainName_defaultHost : Host.IsPlainName defaultHost.toList := by
  decide

theorem normalizeServer_defaultServer : normalizeServer defaultServer = .ok defaultServer := by
  have plain := isPlainName_defaultHost
  have isHost : Url.IsHostText (Url.Host.domain defaultHost).text.toList :=
    .bare (by decide) plain.allowed
  have readsBack := Url.webHost_of_isPlainName plain (by decide) (by decide)
  rw [String.ofList_toList] at readsBack
  have written : "https" ++ "://" ++ (Url.Host.domain defaultHost).text ++ ":" ++ toString 443 =
      defaultServer := by
    decide +kernel
  have taken := normalizeServer_written (.inr rfl) isHost readsBack (show 443 ≤ 65535 by decide)
  rwa [written] at taken

theorem normalizeServer_of_readsBack {text server : String} (readsBack : HostReadsBack text)
    (normalizes : normalizeServer text = .ok server) : normalizeServer server = .ok server := by
  obtain ⟨_, _, _, normalized⟩ := normalized_of_normalizeServer readsBack normalizes
  exact normalized.fixed

theorem hasNormalServer_ofEnvironment {environment : Environment}
    (readsBack : ∀ text ∈ environment.get? "COMPASS_SERVER_URL", HostReadsBack text) :
    (ofEnvironment environment).1.HasNormalServer := by
  change normalizeServer (environmentServer environment).1 = .ok (environmentServer environment).1
  unfold environmentServer
  cases named : environment.get? "COMPASS_SERVER_URL" with
  | none => exact normalizeServer_defaultServer
  | some text =>
      dsimp only
      split
      next => exact normalizeServer_defaultServer
      next =>
        cases normalizes : normalizeServer text with
        | error fault => exact normalizeServer_defaultServer
        | ok server => exact normalizeServer_of_readsBack (readsBack text named) normalizes

/-- Settings whose server is in normal form have no fault in it. -/
theorem HasNormalServer.validate_ne {configuration : Configuration}
    (normal : configuration.HasNormalServer) (text : String) (fault : ServerFault) :
    configuration.validate ≠ .error (.server text fault) := by
  have taken : normalizeServer configuration.serverUrl = .ok configuration.serverUrl := normal
  unfold validate
  rw [taken]
  split
  · exact nofun
  · split
    · exact nofun
    · dsimp only
      split
      · exact nofun
      · split <;> exact nofun

end Configuration

namespace Change

/-- One change keeps the server in normal form. -/
theorem hasNormalServer_apply {change : Change} {configuration changed : Configuration}
    {keyring : Keyring} (normal : configuration.HasNormalServer)
    (readsBack : ∀ text ∈ change.serverText?, HostReadsBack text)
    (applies : (change.apply configuration keyring).value = .ok changed) :
    changed.HasNormalServer := by
  cases change with
  | server text =>
      obtain ⟨server, normalizes, same⟩ := Url.exists_of_bind_eq_ok applies
      obtain rfl := Except.ok.inj same
      exact Configuration.normalizeServer_of_readsBack (readsBack text rfl) normalizes
  | key place =>
      rw [Configuration.HasNormalServer, KeyPlace.serverUrl_of_fill applies]
      exact normal

/-- Any number of changes keep the server in normal form. -/
theorem hasNormalServer_applyAll {changes : List Change} {configuration : Configuration}
    (normal : configuration.HasNormalServer)
    (readsBack : ∀ change ∈ changes, ∀ text ∈ change.serverText?, HostReadsBack text)
    (keyring : Keyring) :
    (applyAll changes configuration keyring).value.HasNormalServer := by
  induction changes generalizing configuration keyring with
  | nil => exact normal
  | cons change later inductionHypothesis =>
      have readsBackLater := List.forall_mem_of_forall_mem_cons readsBack
      rw [applyAll]
      simp only [Run.bind_apply]
      cases applies : (change.apply configuration keyring).value with
      | error fault => exact inductionHypothesis normal readsBackLater _
      | ok changed =>
          have normalNow :=
            hasNormalServer_apply normal (readsBack change List.mem_cons_self) applies
          exact inductionHypothesis normalNow readsBackLater _

end Change

/-- Normalising gives scheme, host and port and changes nothing when it is done again. The server of
settings from an environment is therefore in normal form, and stays so whatever changes are made to
them; a change that fails changes nothing. Of hosts it is only taken that those which are named are
read back from the form in which they are written. -/
theorem server_always_normal (environment : Environment) (changes : List Change)
    (keyring : Keyring)
    (environmentReadsBack : ∀ text ∈ environment.get? "COMPASS_SERVER_URL", HostReadsBack text)
    (changesReadBack : ∀ change ∈ changes, ∀ text ∈ change.serverText?, HostReadsBack text) :
    (∀ text server, HostReadsBack text → normalizeServer text = .ok server →
      ∃ url host, Url.parse (Text.trimmed text) = .ok url ∧ Normalized url host server) ∧
    let ran := Change.applyAll changes (Configuration.ofEnvironment environment).1 keyring
    normalizeServer ran.value.serverUrl = .ok ran.value.serverUrl ∧
    (∀ text fault, ran.value.validate ≠ .error (.server text fault)) ∧
    ∀ change fault, (change.apply ran.value ran.state).value = .error fault →
      (Change.applyAll (changes ++ [change]) (Configuration.ofEnvironment environment).1
        keyring).value = ran.value := by
  have normal := Change.hasNormalServer_applyAll
    (Configuration.hasNormalServer_ofEnvironment environmentReadsBack) changesReadBack keyring
  refine ⟨fun _ _ => normalized_of_normalizeServer, normal, normal.validate_ne, ?_⟩
  intro change fault fails
  rw [Change.applyAll_append, Change.applyAll]
  simp only [Run.bind_apply, fails]
  rfl

/-- An address from the environment, a scheme that no server has, and an address in brackets. -/
theorem server_always_normal_of_addresses :
    let environment : Environment := [("COMPASS_SERVER_URL", "HTTP://me:pw@127.1:80/p?q#f")]
    let changes : List Change :=
      [.key (.named "/keys"), .server "ftp://127.1", .server "https://[0:0::1]/x"]
    let keyring : Keyring := ⟨Files.Store.empty, 0, fun _ => "fresh"⟩
    (∀ text ∈ environment.get? "COMPASS_SERVER_URL", HostReadsBack text) ∧
    (∀ change ∈ changes, ∀ text ∈ change.serverText?, HostReadsBack text) ∧
    let ran := Change.applyAll changes (Configuration.ofEnvironment environment).1 keyring
    normalizeServer ran.value.serverUrl = .ok ran.value.serverUrl ∧
    ran.value.serverUrl = "https://[::1]:443" := by
  intro environment changes keyring
  have environmentReadsBack :
      ∀ text ∈ environment.get? "COMPASS_SERVER_URL", HostReadsBack text := by
    decide +kernel
  have changesReadBack :
      ∀ change ∈ changes, ∀ text ∈ change.serverText?, HostReadsBack text := by
    decide +kernel
  have normal := server_always_normal environment changes keyring environmentReadsBack
    changesReadBack
  exact ⟨environmentReadsBack, changesReadBack, normal.2.1, by decide +kernel⟩

end LibraryScout.Settings
