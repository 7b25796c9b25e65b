import LibraryScout.Program.Setup
import LibraryScout.Proofs.Settings.Changes
import LibraryScout.Proofs.Settings.Validation

/-!
Contract: options before the environment.

Owns:
- `overridden_eq`, the settings with options as one equation;
- `AlikeBeside`, environments that differ in nothing but what options hide, and that they give the
  same settings;
- `Follows`, settings that say what options say, which holds of all settings for them;
- that settings which are refused leave everything as it was.

Does not own: what makes settings valid, and what is reported about an environment.
-/

namespace LibraryScout.Settings

namespace Configuration

theorem environmentServer_congr {first second : Environment}
    (same : first.get? "COMPASS_SERVER_URL" = second.get? "COMPASS_SERVER_URL") :
    environmentServer first = environmentServer second := by
  rw [environmentServer, same]
  rfl

/-- Where a key is looked for is all that filling one in takes from an environment. -/
theorem withPersistedKey_congr {first second : Environment}
    (same : Keyring.settingsDirectory? first = Keyring.settingsDirectory? second)
    (configuration : Configuration) :
    configuration.withPersistedKey first = configuration.withPersistedKey second := by
  rw [withPersistedKey, same]
  rfl

end Configuration

end LibraryScout.Settings

namespace LibraryScout.Program

open LibraryScout.CommandLine LibraryScout.Settings

/-! ## Settings with options -/

/-- The proxy that the text of an option stands for: none, if the text is empty. -/
def givenProxy? (text : String) : Option String :=
  (some text).filter fun proxy => proxy ≠ ""

/-- What an option says holds; what it leaves open stays. -/
theorem overridden_eq (configuration : Configuration) (options : BackendOptions) :
    overridden configuration options =
      ((options.server?.map normalizeServer).getD (.ok configuration.serverUrl)).map fun server =>
        { configuration with
          serverUrl := server
          proxy? := (options.proxy?.map givenProxy?).getD configuration.proxy?
          timeoutSeconds := options.timeout?.getD configuration.timeoutSeconds } := by
  obtain ⟨server?, proxy?, timeout?⟩ := options
  unfold overridden Configuration.withServer
  cases server? with
  | none =>
      cases proxy? with
      | none => rfl
      | some proxy => rfl
  | some text =>
      simp only [Option.map_some, Option.getD_some]
      cases normalizeServer text with
      | error fault => rfl
      | ok server =>
          cases proxy? with
          | none => rfl
          | some proxy => rfl

/-- Settings say what options say, wherever these say something. -/
structure Follows (options : BackendOptions) (configuration : Configuration) : Prop where
  server : ∀ text ∈ options.server?, normalizeServer text = .ok configuration.serverUrl
  proxy : ∀ text ∈ options.proxy?, configuration.proxy? = givenProxy? text
  timeout : ∀ seconds ∈ options.timeout?, configuration.timeoutSeconds = seconds

theorem follows_of_overridden {configuration chosen : Configuration} {options : BackendOptions}
    (overrode : overridden configuration options = .ok chosen) : Follows options chosen := by
  rw [overridden_eq] at overrode
  cases served : (options.server?.map normalizeServer).getD (.ok configuration.serverUrl) with
  | error fault =>
      rw [served] at overrode
      cases overrode
  | ok server =>
      rw [served] at overrode
      obtain rfl := Except.ok.inj overrode
      apply Follows.mk
      · intro text given
        rw [Option.mem_def.1 given, Option.map_some, Option.getD_some] at served
        exact served
      · intro text given
        show (options.proxy?.map givenProxy?).getD configuration.proxy? = givenProxy? text
        rw [Option.mem_def.1 given, Option.map_some, Option.getD_some]
      · intro seconds given
        show options.timeout?.getD configuration.timeoutSeconds = seconds
        rw [Option.mem_def.1 given, Option.getD_some]

/-- Only a server makes options unusable before anything else is looked at. -/
theorem exists_server_of_overridden {configuration : Configuration} {options : BackendOptions}
    {fault : Fault} (fails : overridden configuration options = .error fault) :
    ∃ text cause, fault = .server text cause := by
  rw [overridden_eq] at fails
  cases named : options.server? with
  | none =>
      rw [named] at fails
      cases fails
  | some text =>
      rw [named, Option.map_some, Option.getD_some] at fails
      cases normalizes : normalizeServer text with
      | ok server =>
          rw [normalizes] at fails
          cases fails
      | error cause =>
          rw [normalizes] at fails
          obtain rfl := Except.error.inj fails
          exact ⟨text, exists_server_of_normalizeServer normalizes⟩

/-! ## Environments -/

/-- Two environments say the same wherever options leave something to them. -/
structure AlikeBeside (options : BackendOptions) (first second : Environment) : Prop where
  server : options.server? = none →
    first.get? "COMPASS_SERVER_URL" = second.get? "COMPASS_SERVER_URL"
  proxy : options.proxy? = none → first.get? "COMPASS_PROXY" = second.get? "COMPASS_PROXY"
  timeout : options.timeout? = none →
    first.get? "COMPASS_REQUEST_TIMEOUT" = second.get? "COMPASS_REQUEST_TIMEOUT"
  userKey : first.get? "COMPASS_USER_KEY" = second.get? "COMPASS_USER_KEY"
  level : first.get? "COMPASS_LOG_LEVEL" = second.get? "COMPASS_LOG_LEVEL"
  directory : Keyring.settingsDirectory? first = Keyring.settingsDirectory? second

theorem overridden_congr {options : BackendOptions} {first second : Environment}
    (alike : AlikeBeside options first second) :
    overridden (Configuration.ofEnvironment first).1 options =
      overridden (Configuration.ofEnvironment second).1 options := by
  obtain ⟨server?, proxy?, timeout?⟩ := options
  rw [overridden_eq, overridden_eq]
  have server : (server?.map normalizeServer).getD
        (.ok (Configuration.ofEnvironment first).1.serverUrl) =
      (server?.map normalizeServer).getD
        (.ok (Configuration.ofEnvironment second).1.serverUrl) := by
    cases server? with
    | none =>
        exact congrArg (fun made => Except.ok made.1)
          (Configuration.environmentServer_congr (alike.server rfl))
    | some text => rfl
  have proxy : (proxy?.map givenProxy?).getD (Configuration.ofEnvironment first).1.proxy? =
      (proxy?.map givenProxy?).getD (Configuration.ofEnvironment second).1.proxy? := by
    cases proxy? with
    | none =>
        exact congrArg (fun value? : Option String =>
          (value?.map Text.trimmed).filter fun text => text ≠ "") (alike.proxy rfl)
    | some text => rfl
  have timeout : timeout?.getD (Configuration.ofEnvironment first).1.timeoutSeconds =
      timeout?.getD (Configuration.ofEnvironment second).1.timeoutSeconds := by
    cases timeout? with
    | none =>
        exact congrArg (fun value? : Option String =>
          (value?.bind Number.whole?).getD Configuration.defaultTimeout) (alike.timeout rfl)
    | some seconds => rfl
  have userKey : (Configuration.ofEnvironment first).1.userKey? =
      (Configuration.ofEnvironment second).1.userKey? :=
    congrArg (Option.filter fun key => !Text.isBlankText key) alike.userKey
  have level : (Configuration.ofEnvironment first).1.logLevel =
      (Configuration.ofEnvironment second).1.logLevel :=
    congrArg (fun value? : Option String =>
      Text.lowercased (value?.getD Configuration.defaultLevel)) alike.level
  simp only [server, proxy, timeout, userKey, level]

theorem checked_congr {options : BackendOptions} {first second : Environment}
    (alike : AlikeBeside options first second) :
    checked (Configuration.ofEnvironment first).1 options =
      checked (Configuration.ofEnvironment second).1 options := by
  rw [checked, overridden_congr alike]
  rfl

/-! ## Settings for options -/

/-- Settings are checked first; only those that pass are given a key. -/
theorem configure_apply (options : BackendOptions) (world : World) :
    let made := Configuration.ofEnvironment world.environment
    configure options world =
      match checked made.1 options with
      | .error fault => ⟨.error fault, made.2, world⟩
      | .ok usable =>
          let filled := usable.withPersistedKey world.environment world.keyring
          ⟨filled.value, made.2 ++ filled.events, { world with keyring := filled.state }⟩ := by
  intro made
  unfold configure
  simp only [Run.bind_apply, Run.read_apply, Run.reportAll_apply, List.nil_append]
  cases checked made.1 options with
  | error fault => simp only [Run.pure_apply, List.append_nil, made]
  | ok usable => rfl

theorem follows_of_checked {configuration usable : Configuration} {options : BackendOptions}
    (passes : checked configuration options = .ok usable) : Follows options usable := by
  obtain ⟨chosen, overrode, after⟩ := Url.exists_of_bind_eq_ok passes
  obtain ⟨_, _, same⟩ := Url.exists_of_bind_eq_ok after
  obtain rfl := Except.ok.inj same
  exact follows_of_overridden overrode

/-- With the empty text for a proxy, no proxy is at fault. -/
theorem checked_ne_proxy {options : BackendOptions} (direct : options.proxy? = some "")
    (configuration : Configuration) (text : String) :
    checked configuration options ≠ .error (.proxy text) := by
  intro fails
  unfold checked at fails
  cases overrode : overridden configuration options with
  | error fault =>
      rw [overrode] at fails
      obtain rfl := Except.error.inj fails
      obtain ⟨server, cause, isServer⟩ := exists_server_of_overridden overrode
      cases isServer
  | ok chosen =>
      rw [overrode] at fails
      have noProxy : chosen.proxy? = none := (follows_of_overridden overrode).proxy "" direct
      cases judged : chosen.validate with
      | ok _ =>
          simp only [bind, Except.bind, judged] at fails
          cases fails
      | error fault =>
          simp only [bind, Except.bind, judged] at fails
          obtain rfl := Except.error.inj fails
          exact Configuration.validate_ne_proxy noProxy text judged

theorem configure_congr {options : BackendOptions} {first second : World}
    (alike : AlikeBeside options first.environment second.environment)
    (sameKeyring : first.keyring = second.keyring) :
    (configure options first).value = (configure options second).value ∧
      (configure options first).state.keyring = (configure options second).state.keyring := by
  rw [configure_apply, configure_apply, checked_congr alike, sameKeyring]
  cases checked (Configuration.ofEnvironment second.environment).1 options with
  | error fault => exact ⟨rfl, sameKeyring⟩
  | ok usable =>
      dsimp only
      rw [Configuration.withPersistedKey_congr alike.directory]
      exact ⟨rfl, rfl⟩

/-- Filling in a key changes nothing that options speak of. -/
theorem follows_of_configure {options : BackendOptions} {world : World}
    {configuration : Configuration}
    (configured : (configure options world).value = .ok configuration) :
    Follows options configuration := by
  rw [configure_apply] at configured
  cases passes : checked (Configuration.ofEnvironment world.environment).1 options with
  | error fault =>
      simp only [passes] at configured
      cases configured
  | ok usable =>
      simp only [passes] at configured
      have fills := (KeyPlace.personal world.environment).filled usable world.keyring
      dsimp only [KeyPlace.fill] at fills
      rw [configured] at fills
      obtain ⟨key, rfl, -⟩ := fills.eq_withKey
      have follows := follows_of_checked passes
      exact ⟨follows.server, follows.proxy, follows.timeout⟩

/-- Settings are refused by the checks, with nothing changed, or for the file of the key. -/
theorem configure_eq_error {options : BackendOptions} {world : World} {fault : Fault}
    (refused : (configure options world).value = .error fault) :
    (checked (Configuration.ofEnvironment world.environment).1 options = .error fault ∧
        (configure options world).state = world) ∨
      ∃ path cause, fault = .userKey path cause := by
  rw [configure_apply] at refused ⊢
  cases passes : checked (Configuration.ofEnvironment world.environment).1 options with
  | error found =>
      simp only [passes] at refused
      obtain rfl := Except.error.inj refused
      exact .inl ⟨rfl, rfl⟩
  | ok usable =>
      simp only [passes] at refused
      have fills := (KeyPlace.personal world.environment).filled usable world.keyring
      dsimp only [KeyPlace.fill] at fills
      rw [refused] at fills
      exact .inr fills.exists_userKey

/-- What options say hides the environment: settings for them, or the fault that they have, and the
keys that are kept afterwards, are the same in any environment that differs in hidden variables
only. The settings say what the options say, and the empty text for a proxy means none, so that no
proxy is at fault. Unless the fault is in the file of a key, refused settings leave all as it
was. -/
theorem options_hide_environment (options : BackendOptions) (world : World) :
    let ran := configure options world
    (∀ other : World, AlikeBeside options world.environment other.environment →
      world.keyring = other.keyring →
      let again := configure options other
      again.value = ran.value ∧ again.state.keyring = ran.state.keyring) ∧
    (∀ configuration, ran.value = .ok configuration → Follows options configuration) ∧
    (options.proxy? = some "" → ∀ text, ran.value ≠ .error (.proxy text)) ∧
    ∀ fault, ran.value = .error fault → (∀ path cause, fault ≠ .userKey path cause) →
      ran.state = world := by
  intro ran
  refine ⟨?hides, fun _ => follows_of_configure, ?direct, ?refused⟩
  case hides =>
    intro other alike sameKeyring
    obtain ⟨sameValue, sameKeys⟩ := configure_congr alike sameKeyring
    exact ⟨sameValue.symm, sameKeys.symm⟩
  case direct =>
    intro direct text refused
    rcases configure_eq_error refused with ⟨fails, -⟩ | ⟨_, _, isUserKey⟩
    · exact checked_ne_proxy direct _ text fails
    · cases isUserKey
  case refused =>
    intro fault refused notKey
    rcases configure_eq_error refused with ⟨-, same⟩ | ⟨path, cause, isUserKey⟩
    · exact same
    · exact absurd isUserKey (notKey path cause)

/-- Variables that are all unusable, beside none: given options hide them, and where a time limit
of zero is refused, no key is made in the home of the user. -/
theorem options_hide_environment_of_unusable :
    let unusable : Environment :=
      [("COMPASS_SERVER_URL", "nonsense"), ("COMPASS_PROXY", "::"),
        ("COMPASS_REQUEST_TIMEOUT", "0"), ("HOME", "/home")]
    let keyring : Keyring :=
      ⟨⟨.directory [("home", .directory [])], []⟩, 0, fun _ => "fresh"⟩
    let world : World := ⟨unusable, keyring, .unreachable⟩
    let other : World := ⟨[("HOME", "/home")], keyring, .unreachable⟩
    let given : BackendOptions := ⟨some "http://127.0.0.1:8080", some "", some 5⟩
    (configure given other).value.toOption =
        some ⟨"http://127.0.0.1:8080", none, some "fresh", 5, "info"⟩ ∧
      (configure given world).value = (configure given other).value ∧
      (configure ⟨none, none, none⟩ world).value = .error .noTimeout ∧
      (configure ⟨none, none, none⟩ world).state = world := by
  intro unusable keyring world other given
  have alike : AlikeBeside given other.environment world.environment :=
    ⟨nofun, nofun, nofun, rfl, rfl, rfl⟩
  obtain ⟨hides, -, -, -⟩ := options_hide_environment given other
  obtain ⟨-, -, -, refused⟩ := options_hide_environment ⟨none, none, none⟩ world
  have noTimeout : (configure ⟨none, none, none⟩ world).value = .error .noTimeout := by
    decide +kernel
  exact ⟨by decide +kernel, (hides world alike rfl).1, noTimeout, refused _ noTimeout nofun⟩

end LibraryScout.Program
