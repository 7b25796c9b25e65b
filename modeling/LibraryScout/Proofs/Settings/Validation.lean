import LibraryScout.Log.Options
import LibraryScout.Proofs.Settings.Changes
import LibraryScout.Proofs.Text.Lowercase

/-!
Contract: which settings are valid, and whose names of levels they take.

Owns:
- the conditions that make settings valid, as one statement;
- the level in the environment, which the log and the settings both read: where the log knows the
  name, the settings take it unless it has white space around it or is the second name of a level.
-/

namespace LibraryScout.Log

/-- A level by its name, or by the second name that one of them has. -/
theorem Severity.ofName?_eq_some_iff {text : String} {severity : Severity} :
    ofName? text = some severity ↔
      Text.lowercased (Text.trimmed text) = severity.name ∨
        (severity = .warn ∧ Text.lowercased (Text.trimmed text) = "warning") := by
  unfold ofName?
  generalize Text.lowercased (Text.trimmed text) = written
  constructor
  · intro found
    split at found <;> cases found <;> simp [name]
  · rintro (rfl | ⟨rfl, rfl⟩)
    · cases severity <;> rfl
    · rfl

theorem parseLevel_note_iff {text : String} :
    (parseLevel text).2 = [] ↔ ∃ severity, Severity.ofName? text = some severity := by
  rw [parseLevel]
  cases Severity.ofName? text <;> simp

end LibraryScout.Log

namespace LibraryScout.Settings

open LibraryScout.Log (Severity)

/-! ## Valid settings -/

namespace Configuration

variable {configuration : Configuration}

theorem validate_eq_ok_iff :
    configuration.validate = .ok () ↔
      configuration.timeoutSeconds ≠ 0 ∧ configuration.logLevel ∈ levelNames ∧
        (∃ server, normalizeServer configuration.serverUrl = .ok server) ∧
        ∀ text ∈ configuration.proxy?, ∃ url, Url.parse text = .ok url := by
  unfold validate
  by_cases noTimeout : configuration.timeoutSeconds = 0
  · simp [noTimeout]
  by_cases known : configuration.logLevel ∈ levelNames
  · cases normalizeServer configuration.serverUrl with
    | error fault => simp [noTimeout, known]
    | ok server =>
        cases configuration.proxy? with
        | none => simp [noTimeout, known]
        | some text => cases parsed : Url.parse text <;> simp [noTimeout, known, parsed]
  · simp [noTimeout, known]

theorem validate_of_unknownLevel (timed : configuration.timeoutSeconds ≠ 0)
    (unknown : configuration.logLevel ∉ levelNames) :
    configuration.validate = .error .unknownLevel := by
  rw [validate, if_neg timed, if_pos unknown]

/-- Settings without a proxy are not refused for one. -/
theorem validate_ne_proxy (direct : configuration.proxy? = none) (text : String) :
    configuration.validate ≠ .error (.proxy text) := by
  intro fails
  unfold validate at fails
  rw [direct] at fails
  split at fails
  · cases fails
  · split at fails
    · cases fails
    · split at fails
      next fault normalizes =>
        obtain ⟨cause, isServer⟩ := exists_server_of_normalizeServer normalizes
        cases fails
        cases isServer
      next => cases fails

end Configuration

/-! ## Names of levels -/

theorem mem_levelNames_iff {name : String} :
    name ∈ levelNames ↔ ∃ severity : Severity, name = severity.name := by
  constructor
  · intro member
    have all : levelNames = Severity.all.map Severity.name := rfl
    rw [all] at member
    obtain ⟨severity, -, rfl⟩ := List.mem_map.1 member
    exact ⟨severity, rfl⟩
  · rintro ⟨severity, rfl⟩
    cases severity <;> decide

theorem trimmed_of_lowercased_mem_levelNames {text : String}
    (member : Text.lowercased text ∈ levelNames) : Text.trimmed text = text := by
  have solid : ∀ name ∈ levelNames, name.toList.all (fun character => !Text.isBlank character) =
      true := by
    decide
  refine Text.trimmed_of_lowercased fun character inName => ?_
  simpa using List.all_eq_true.1 (solid _ member) character inName

/-- Settings take the names of levels that the log knows, but neither with white space around them
nor the second name. -/
theorem lowercased_mem_levelNames_iff {text : String} :
    Text.lowercased text ∈ levelNames ↔
      (Log.parseLevel text).2 = [] ∧ Text.trimmed text = text ∧
        Text.lowercased text ≠ "warning" := by
  rw [Log.parseLevel_note_iff]
  constructor
  · intro member
    have bare := trimmed_of_lowercased_mem_levelNames member
    obtain ⟨severity, written⟩ := mem_levelNames_iff.1 member
    refine ⟨⟨severity, Severity.ofName?_eq_some_iff.2 (.inl ?_)⟩, bare, ?_⟩
    · rw [bare, written]
    · rw [written]
      cases severity <;> decide
  · rintro ⟨⟨severity, found⟩, bare, notSecond⟩
    rcases Severity.ofName?_eq_some_iff.1 found with first | ⟨-, second⟩
    · rw [bare] at first
      exact mem_levelNames_iff.2 ⟨severity, first⟩
    · rw [bare] at second
      exact absurd second notSecond

/-- Where the environment gives nothing but a level, all else is valid. -/
theorem valid_beside_level (value : String) :
    { (Configuration.ofEnvironment [("COMPASS_LOG_LEVEL", value)]).1 with
      logLevel := Configuration.defaultLevel }.validate = .ok () := by
  have timed : Configuration.defaultTimeout ≠ 0 := by decide
  have leveled : Configuration.defaultLevel ∈ levelNames := by decide
  exact Configuration.validate_eq_ok_iff.2 ⟨timed, leveled,
    ⟨_, Configuration.normalizeServer_defaultServer⟩, nofun⟩

/-- The log and the settings read the level in the environment. With all else valid, the settings
are valid if and only if the log knows the name, no white space surrounds it and it is not the
second name of a level; both then mean the same level. Any other name is reported as such. -/
theorem level_readers_agree {environment : Environment} {value : String}
    (named : environment.get? "COMPASS_LOG_LEVEL" = some value)
    (elseValid : { (Configuration.ofEnvironment environment).1 with
      logLevel := Configuration.defaultLevel }.validate = .ok ()) :
    let made := (Configuration.ofEnvironment environment).1
    (made.validate = .ok () ↔
      (Log.parseLevel value).2 = [] ∧ Text.trimmed value = value ∧
        Text.lowercased value ≠ "warning") ∧
    (made.validate = .ok () ∨ made.validate = .error .unknownLevel) ∧
    (made.validate = .ok () → (Log.parseLevel value).1.name = made.logLevel) := by
  intro made
  have level : made.logLevel = Text.lowercased value := by
    change Text.lowercased ((environment.get? "COMPASS_LOG_LEVEL").getD _) = _
    rw [named]
    rfl
  obtain ⟨timed, -, served, proxied⟩ := Configuration.validate_eq_ok_iff.1 elseValid
  have valid_iff : made.validate = .ok () ↔ Text.lowercased value ∈ levelNames := by
    rw [← level, Configuration.validate_eq_ok_iff]
    exact ⟨fun valid => valid.2.1, fun known => ⟨timed, known, served, proxied⟩⟩
  refine ⟨valid_iff.trans lowercased_mem_levelNames_iff, ?_, fun valid => ?_⟩
  · by_cases known : made.logLevel ∈ levelNames
    · exact .inl (valid_iff.2 (level ▸ known))
    · exact .inr (Configuration.validate_of_unknownLevel timed known)
  · have member := valid_iff.1 valid
    have bare := trimmed_of_lowercased_mem_levelNames member
    obtain ⟨severity, written⟩ := mem_levelNames_iff.1 member
    have found := Severity.ofName?_eq_some_iff.2 (.inl (bare.symm ▸ written))
    rw [level, written, Log.parseLevel, found]

/-- Case does not matter to either reader. -/
theorem level_readers_agree_upper_case :
    let environment : Environment := [("COMPASS_LOG_LEVEL", "Debug")]
    environment.get? "COMPASS_LOG_LEVEL" = some "Debug" ∧
      { (Configuration.ofEnvironment environment).1 with
        logLevel := Configuration.defaultLevel }.validate = .ok () ∧
      (Configuration.ofEnvironment environment).1.validate = .ok () :=
  ⟨rfl, valid_beside_level "Debug",
    (level_readers_agree rfl (valid_beside_level "Debug")).1.2 (by decide +kernel)⟩

/-- The log takes both names for levels, but the settings are not valid with either of them, though
all else in them is. -/
theorem level_readers_differ :
    ((Log.parseLevel "warning").2 = [] ∧
      { (Configuration.ofEnvironment [("COMPASS_LOG_LEVEL", "warning")]).1 with
        logLevel := Configuration.defaultLevel }.validate = .ok () ∧
      (Configuration.ofEnvironment [("COMPASS_LOG_LEVEL", "warning")]).1.validate =
        .error .unknownLevel) ∧
    ((Log.parseLevel " info ").2 = [] ∧
      { (Configuration.ofEnvironment [("COMPASS_LOG_LEVEL", " info ")]).1 with
        logLevel := Configuration.defaultLevel }.validate = .ok () ∧
      (Configuration.ofEnvironment [("COMPASS_LOG_LEVEL", " info ")]).1.validate =
        .error .unknownLevel) := by
  have timed : Configuration.defaultTimeout ≠ 0 := by decide
  have secondName : Text.lowercased "warning" ∉ levelNames := by decide +kernel
  have spaced : Text.lowercased " info " ∉ levelNames := by decide +kernel
  exact ⟨⟨by decide +kernel, valid_beside_level _,
      Configuration.validate_of_unknownLevel timed secondName⟩,
    ⟨by decide +kernel, valid_beside_level _,
      Configuration.validate_of_unknownLevel timed spaced⟩⟩

end LibraryScout.Settings
