import LibraryScout.Proofs.Backend.Client
import LibraryScout.Proofs.Settings.Validation

/-!
Contract: with which valid settings a client can be built.

Owns:
- `NamesHost`, the texts that are URLs with a host, which a proxy needs and validity does not ask
  for;
- that a client for valid settings with a usable key fails on its proxy only, and when it does;
- that a proxy with a scheme of the web never fails.
-/

namespace LibraryScout.Backend

open LibraryScout.Http LibraryScout.Settings

/-- A text is a URL with a host. -/
def NamesHost (text : String) : Prop :=
  ∃ url, Url.parse text = .ok url ∧ hasHost url = true

theorem namesHost_of_isWeb {text : String} {url : Url} (read : Url.parse text = .ok url)
    (web : Url.isWeb url.scheme = true) : NamesHost text := by
  obtain ⟨written, host, hostRead, hosted⟩ := Url.webHost_of_parse read web
  have nonempty : host.text ≠ "" := by
    intro nothing
    exact (Url.isHostText_of_webHost hostRead).ne_nil (by rw [nothing]; rfl)
  exact ⟨url, read, by simp [hasHost, hosted, nonempty]⟩

/-- A host and a port are a URL with a host after `http://`. -/
theorem namesHost_written {name : String} (plain : Host.IsPlainName name.toList)
    (nonempty : name.toList ≠ []) (noNumber : Host.Ipv4.endsInNumber name.toList = false)
    {port : Nat} (inRange : port ≤ 65535) :
    NamesHost ("http://" ++ (name ++ ":" ++ toString port)) := by
  have isHost : Url.IsHostText (Url.Host.domain name).text.toList := .bare nonempty plain.allowed
  have named := Url.webHost_of_isPlainName plain nonempty noNumber
  rw [String.ofList_toList] at named
  have read := Url.parse_written (.inl rfl) isHost named inRange
  have shape : "http://" ++ (name ++ ":" ++ toString port) =
      "http" ++ "://" ++ (Url.Host.domain name).text ++ ":" ++ toString port := by
    simp [Url.Host.text, String.append_assoc]
  rw [shape]
  exact namesHost_of_isWeb read (Url.IsHttp.isWeb (.inl rfl))

/-- What follows a host and a colon has to start with a port. -/
theorem not_namesHost_of_readPort {name rest : List Char} (isHost : Url.IsHostText name)
    (visible : ∀ character ∈ rest, 32 < character.toNat ∧ character ≠ '@')
    (noPort : ∀ read, Url.readPort 0 false rest ≠ .ok read) :
    ¬ NamesHost ("http" ++ "://" ++ String.ofList (name ++ ':' :: rest)) := by
  rintro ⟨url, read, -⟩
  have noSign : '@' ∉ name ++ ':' :: rest := by
    intro member
    rcases List.mem_append.1 member with inName | behind
    · exact absurd (isHost.isHostCharacter '@' inName) (by decide)
    · rcases List.mem_cons.1 behind with colon | inRest
      · exact absurd colon (by decide)
      · exact (visible '@' inRest).2 rfl
  rw [Url.parse_of_http (.inl rfl) isHost fun character member => (visible character member).1,
    Url.afterSlashes_of_hostText (by decide) isHost noSign] at read
  obtain ⟨host, -, numbered⟩ := Url.exists_of_bind_eq_ok read
  obtain ⟨port, portRead, -⟩ := Url.exists_of_bind_eq_ok numbered
  exact noPort port portRead

/-- What is a URL at all is a proxy if it has a host, or if it has one after `http://`. -/
theorem exists_proxyOf?_iff {text : String} {url : Url} (read : Url.parse text = .ok url) :
    (∃ proxy, proxyOf? text = some proxy) ↔
      NamesHost text ∨ NamesHost ("http://" ++ text) := by
  unfold proxyOf? NamesHost
  rw [read]
  by_cases hosted : hasHost url = true
  · simp [hosted]
  · cases second : Url.parse ("http://" ++ text) with
    | error fault => simp [hosted]
    | ok other => by_cases otherHosted : hasHost other = true <;> simp [hosted, otherHosted]

namespace Client

variable {configuration : Configuration}

/-- With a usable key, all depends on the proxy. -/
theorem ofConfiguration_of_usableKey
    (keyed : ∀ key ∈ configuration.userKey?, isHeaderText key = true) :
    ((∃ client, ofConfiguration configuration = .ok client) ∧
      ∀ text ∈ configuration.proxy?, ∃ proxy, proxyOf? text = some proxy) ∨
    ∃ text ∈ configuration.proxy?, proxyOf? text = none ∧
      ofConfiguration configuration = .error (proxyFault text) := by
  have usable : configuration.userKey?.filter (fun key => !isHeaderText key) = none := by
    rw [Option.filter_eq_none_iff]
    intro key member
    simp [keyed key member]
  unfold ofConfiguration
  rw [usable]
  cases configuration.proxy? with
  | none => exact .inl ⟨⟨_, rfl⟩, nofun⟩
  | some text =>
      cases found : proxyOf? text with
      | none => exact .inr ⟨text, rfl, found, by simp only [found]⟩
      | some proxy =>
          refine .inl ⟨?_, ?_⟩
          · simp only [found]
            exact ⟨_, rfl⟩
          · rintro _ ⟨⟩
            exact ⟨proxy, found⟩

/-- Settings that differ from the defaults in their proxy. -/
def settingsWithProxy (text : String) : Configuration :=
  ⟨Configuration.defaultServer, some text, none, Configuration.defaultTimeout,
    Configuration.defaultLevel⟩

theorem validate_settingsWithProxy {text : String} (read : ∃ url, Url.parse text = .ok url) :
    (settingsWithProxy text).validate = .ok () := by
  have timed : Configuration.defaultTimeout ≠ 0 := by decide
  have leveled : Configuration.defaultLevel ∈ levelNames := by decide
  refine Configuration.validate_eq_ok_iff.2 ⟨timed, leveled,
    ⟨_, Configuration.normalizeServer_defaultServer⟩, ?_⟩
  rintro _ ⟨⟩
  exact read

/-- For valid settings with a key that a header can hold, there is a client if and only if the
proxy, where there is one, has a host by itself or after `http://`; else the proxy is reported. So
no proxy with a scheme of the web is refused. -/
theorem client_of_valid_iff (valid : configuration.validate = .ok ())
    (keyed : ∀ key ∈ configuration.userKey?, isHeaderText key = true) :
    ((∃ client, ofConfiguration configuration = .ok client) ↔
      ∀ text ∈ configuration.proxy?, NamesHost text ∨ NamesHost ("http://" ++ text)) ∧
    ((∃ client, ofConfiguration configuration = .ok client) ∨
      ∃ text ∈ configuration.proxy?, ofConfiguration configuration = .error (proxyFault text)) ∧
    ((∀ text ∈ configuration.proxy?, ∀ url, Url.parse text = .ok url →
        Url.isWeb url.scheme = true) →
      ∃ client, ofConfiguration configuration = .ok client) := by
  obtain ⟨-, -, -, proxied⟩ := Configuration.validate_eq_ok_iff.1 valid
  have named_iff : ∀ text ∈ configuration.proxy?,
      ((∃ proxy, proxyOf? text = some proxy) ↔
        NamesHost text ∨ NamesHost ("http://" ++ text)) := by
    intro text member
    obtain ⟨url, read⟩ := proxied text member
    exact exists_proxyOf?_iff read
  have built_iff : (∃ client, ofConfiguration configuration = .ok client) ↔
      ∀ text ∈ configuration.proxy?, NamesHost text ∨ NamesHost ("http://" ++ text) := by
    rcases ofConfiguration_of_usableKey keyed with ⟨built, named⟩ | ⟨text, member, none, failed⟩
    · exact ⟨fun _ text member => (named_iff text member).1 (named text member), fun _ => built⟩
    · refine ⟨fun ⟨client, built⟩ => ?_, fun named => ?_⟩
      · rw [failed] at built
        cases built
      · obtain ⟨proxy, found⟩ := (named_iff text member).2 (named text member)
        rw [none] at found
        cases found
  refine ⟨built_iff, ?_, fun web => built_iff.2 fun text member => ?_⟩
  · rcases ofConfiguration_of_usableKey keyed with ⟨built, -⟩ | ⟨text, member, -, failed⟩
    · exact .inl built
    · exact .inr ⟨text, member, failed⟩
  · obtain ⟨url, read⟩ := proxied text member
    exact .inl (namesHost_of_isWeb read (web text member url read))

/-- A host and a port alone read as a URL with a scheme and without a host. -/
theorem client_of_valid_iff_host_and_port :
    (settingsWithProxy "localhost:3128").validate = .ok () ∧
      (∀ key ∈ (settingsWithProxy "localhost:3128").userKey?, isHeaderText key = true) ∧
      ∃ client, ofConfiguration (settingsWithProxy "localhost:3128") = .ok client := by
  have read : ∃ url, Url.parse "localhost:3128" = .ok url := ⟨_, rfl⟩
  have valid := validate_settingsWithProxy read
  have keyed : ∀ key ∈ (settingsWithProxy "localhost:3128").userKey?, isHeaderText key = true :=
    nofun
  have plain : Host.IsPlainName "localhost".toList := by decide
  have inRange : 3128 ≤ 65535 := by decide
  have named := namesHost_written plain (by decide) (by decide) inRange
  have written : "localhost" ++ ":" ++ toString 3128 = "localhost:3128" := by decide +kernel
  rw [written] at named
  refine ⟨valid, keyed, (client_of_valid_iff valid keyed).1.2 ?_⟩
  rintro _ ⟨⟩
  exact .inr named

/-- Settings with an opaque URL for a proxy are valid, but no client can be built for them. -/
theorem valid_without_client :
    (settingsWithProxy "mailto:x").validate = .ok () ∧
      (settingsWithProxy "mailto:x").userKey? = none ∧
      ofConfiguration (settingsWithProxy "mailto:x") = .error (proxyFault "mailto:x") := by
  have read : Url.parse "mailto:x" = .ok ⟨"mailto", "", none, none, none, "x", none, none⟩ := rfl
  have keyed : ∀ key ∈ (settingsWithProxy "mailto:x").userKey?, isHeaderText key = true := nofun
  have noHost : ¬ NamesHost "mailto:x" := by
    rintro ⟨url, readAgain, hosted⟩
    obtain rfl := Except.ok.inj (read.symm.trans readAgain)
    cases hosted
  have plain : Host.IsPlainName "mailto".toList := by decide
  have isHost : Url.IsHostText "mailto".toList := .bare (by decide) plain.allowed
  have shape : "http" ++ "://" ++ String.ofList ("mailto".toList ++ ':' :: ['x']) =
      "http://" ++ "mailto:x" := by
    decide +kernel
  have noPort := not_namesHost_of_readPort isHost
    (List.forall_mem_singleton.2 (by decide : 32 < 'x'.toNat ∧ 'x' ≠ '@')) nofun
  rw [shape] at noPort
  refine ⟨validate_settingsWithProxy ⟨_, read⟩, rfl, ?_⟩
  rcases ofConfiguration_of_usableKey keyed with ⟨-, named⟩ | ⟨_, ⟨⟩, -, failed⟩
  · rcases (exists_proxyOf?_iff read).1 (named "mailto:x" rfl) with direct | behind
    · exact absurd direct noHost
    · exact absurd behind noPort
  · exact failed

end Client

end LibraryScout.Backend
