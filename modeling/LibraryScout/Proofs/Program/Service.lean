import LibraryScout.Proofs.Backend.Sequence
import LibraryScout.Proofs.Program.Context
import LibraryScout.Proofs.Settings.Filling
import LibraryScout.Proofs.Settings.Validation

/-!
Contract: the program and its service.

Owns:
- that connecting does not touch the network, and does not look at it;
- that a client which the program connects talks to just one server;
- `Asks`, what a run asks the service for and comes to, which is put together along its steps;
- the one thing that the context of a document asks for.

Does not own: which commands ask for what.
-/

namespace LibraryScout.Program

open LibraryScout.Assembly LibraryScout.Backend LibraryScout.CommandLine LibraryScout.Http
open LibraryScout.Settings LibraryScout.Source

theorem World.withNetwork_apply {α : Type} (run : Run Network α) (world : World) :
    World.withNetwork run world =
      ⟨(run world.network).value, (run world.network).events,
        { world with network := (run world.network).state }⟩ := rfl

/-! ## Connecting -/

theorem configure_withNetwork (options : BackendOptions) (world : World) (network : Network) :
    let ran := configure options world
    configure options { world with network } =
      ⟨ran.value, ran.events, { ran.state with network }⟩ := by
  unfold configure
  simp only [Run.bind_apply, Run.read_apply, Run.reportAll_apply]
  cases checked (Configuration.ofEnvironment world.environment).1 options with
  | error fault => rfl
  | ok usable => rfl

/-- Connecting does the same whatever the network is, and leaves it alone. -/
theorem connect_withNetwork (options : BackendOptions) (world : World) (network : Network) :
    let ran := connect options world
    connect options { world with network } =
      ⟨ran.value, ran.events, { ran.state with network }⟩ := by
  unfold connect
  simp only [Run.bind_apply, configure_withNetwork]
  cases (configure options world).value with
  | error fault => rfl
  | ok configuration =>
      cases built : Client.ofConfiguration configuration with
      | error error => simp only [built, Run.pure_apply]
      | ok client => simp only [built, Run.pure_apply]

theorem connect_network (options : BackendOptions) (world : World) :
    (connect options world).state.network = world.network := by
  have same := connect_withNetwork options world world.network
  exact congrArg (fun ran => ran.state.network) same

/-! ## The server of a client -/

theorem hasServerForm_defaultServer : HasServerForm Configuration.defaultServer := by
  have allowed : ("www.code-compass.com".toList.all fun character =>
      !Host.Domain.isDenied character) = true := by
    decide
  refine ⟨"https", "www.code-compass.com".toList, "443".toList, .inr rfl, ?_, ?_, ?_, ?_⟩
  · refine .bare (by decide) fun character member => ?_
    simpa using List.all_eq_true.1 allowed character member
  · decide
  · exact List.all_eq_true.1 (by decide)
  · decide

theorem hasServerForm_environmentServer (environment : Environment) :
    HasServerForm (Configuration.environmentServer environment).1 := by
  unfold Configuration.environmentServer
  cases environment.get? "COMPASS_SERVER_URL" with
  | none => exact hasServerForm_defaultServer
  | some text =>
      dsimp only
      by_cases blank : Text.isBlankText text = true
      · rw [if_pos blank]
        exact hasServerForm_defaultServer
      · rw [if_neg blank]
        cases normalized : normalizeServer text with
        | error fault => exact hasServerForm_defaultServer
        | ok server => exact hasServerForm_of_normalizeServer normalized

/-- Options leave the server alone or name one that is normalised. -/
theorem hasServerForm_overridden {configuration chosen : Configuration} {options : BackendOptions}
    (hasForm : HasServerForm configuration.serverUrl)
    (overrode : overridden configuration options = .ok chosen) :
    HasServerForm chosen.serverUrl := by
  obtain ⟨server?, proxy?, timeout?⟩ := options
  unfold overridden at overrode
  cases server? with
  | none =>
      obtain rfl := Except.ok.inj overrode
      cases proxy? with
      | none => exact hasForm
      | some proxy => exact hasForm
  | some text =>
      obtain ⟨served, isServed, after⟩ := Url.exists_of_bind_eq_ok overrode
      obtain ⟨server, made, same⟩ := Url.exists_of_bind_eq_ok isServed
      obtain rfl := Except.ok.inj same
      obtain rfl := Except.ok.inj after
      cases proxy? with
      | none => exact hasServerForm_of_normalizeServer made
      | some proxy => exact hasServerForm_of_normalizeServer made

/-- Settings that can be used name a server in the form of a URL, which normalising takes. -/
theorem server_of_configure {options : BackendOptions} {world : World} {keyed : Configuration}
    (configured : (configure options world).value = .ok keyed) :
    HasServerForm keyed.serverUrl ∧ ∃ again, normalizeServer keyed.serverUrl = .ok again := by
  unfold configure at configured
  simp only [Run.bind_apply, Run.read_apply] at configured
  cases usable : checked (Configuration.ofEnvironment world.environment).1 options with
  | error fault =>
      rw [usable] at configured
      cases configured
  | ok chosen =>
      rw [usable] at configured
      have sameServer : keyed.serverUrl = chosen.serverUrl :=
        (KeyPlace.personal world.environment).serverUrl_of_fill configured
      rw [sameServer]
      obtain ⟨overrode, isOverridden, after⟩ := Url.exists_of_bind_eq_ok usable
      obtain ⟨_, valid, same⟩ := Url.exists_of_bind_eq_ok after
      obtain rfl := Except.ok.inj same
      have hasForm := hasServerForm_environmentServer world.environment
      obtain ⟨-, -, taken, -⟩ := Configuration.validate_eq_ok_iff.1 valid
      exact ⟨hasServerForm_overridden hasForm isOverridden, taken⟩

/-- A client that the program connects talks to just one server. -/
theorem isHome_of_connect {options : BackendOptions} {world : World} {client : Client}
    (connected : (connect options world).value = .ok client) :
    ∃ home, IsHome client.serverUrl home := by
  unfold connect at connected
  simp only [Run.bind_apply] at connected
  cases configured : (configure options world).value with
  | error fault =>
      rw [configured] at connected
      cases connected
  | ok keyed =>
      rw [configured] at connected
      cases built : Client.ofConfiguration keyed with
      | error error =>
          simp only [built] at connected
          cases connected
      | ok made =>
          simp only [built] at connected
          obtain rfl := Except.ok.inj connected
          obtain ⟨hasForm, again, taken⟩ := server_of_configure configured
          exact Client.exists_isHome_of_ofConfiguration hasForm taken built

/-! ## Asking -/

/-- A run comes to a value and asks the service for orders, one after another. -/
structure Asks {α : Type} (client : Client) (run : Run World α) (world : World)
    (orders : List Client.Order) (value : α) : Prop where
  value : (run world).value = value
  asked : Asked client orders world.network (run world).state.network

section

variable {α β : Type} {client : Client} {world : World}

/-- A run that leaves the network alone asks for nothing. -/
theorem Asks.nothing {run : Run World α} {value : α} (same : (run world).value = value)
    (alone : (run world).state.network = world.network) : Asks client run world [] value := by
  refine ⟨same, ?_⟩
  rw [alone]
  exact Asked.nothing client world.network

theorem Asks.pure (value : α) : Asks client (Pure.pure value) world [] value :=
  .nothing rfl rfl

theorem Asks.bind {first : Run World α} {next : α → Run World β} {held : α} {value : β}
    {orders later : List Client.Order} (start : Asks client first world orders held)
    (rest : Asks client (next held) (first world).state later value) :
    Asks client (first >>= next) world (orders ++ later) value := by
  obtain ⟨held, asked⟩ := start
  refine ⟨?_, ?_⟩
  · rw [Run.bind_apply, held]
    exact rest.value
  · rw [Run.bind_apply, held]
    exact asked.append rest.asked

theorem Asks.nothing_bind {first : Run World α} {next : α → Run World β} {held : α} {value : β}
    {later : List Client.Order} (start : Asks client first world [] held)
    (rest : Asks client (next held) (first world).state later value) :
    Asks client (first >>= next) world later value :=
  start.bind rest

/-- What follows may ask for nothing more. -/
theorem Asks.bind_nothing {first : Run World α} {next : α → Run World β} {held : α} {value : β}
    {orders : List Client.Order} (start : Asks client first world orders held)
    (rest : Asks client (next held) (first world).state [] value) :
    Asks client (first >>= next) world orders value := by
  have both := start.bind rest
  rwa [List.append_nil] at both

/-- What was asked for is missing from the script afterwards. -/
theorem Asks.script {run : Run World α} {orders : List Client.Order} {value : α}
    (asks : Asks client run world orders value) :
    client.script (run world).state.network =
      (client.script world.network).drop orders.length :=
  asks.asked.script

variable {home : Url} (isHome : IsHome client.serverUrl home)

include isHome

theorem Asks.query (query : Query) (world : World) :
    Asks client (World.withNetwork (query.ask client)) world [query.order]
      (query.valueWith client (client.script world.network).head?) := by
  obtain ⟨value, sent⟩ := query.ask_of_isHome isHome world.network
  have after : After client (some query.order) world.network
      (query.ask client world.network).state := sent
  exact ⟨value, after.asked⟩

/-- The context of a document asks for the modules of its packages, if it has any. -/
theorem Asks.context (document : Document) (world : World) :
    Asks client
      ((⟨.defaults, resolverOf client⟩ : Assembler World).extractContext document.fileName
        document.text) world
      ((request? .defaults document).map Step.callOrder).toList
      (outcomeWith .defaults document
        (answerWith client (request? .defaults document) (client.script world.network).head?)) := by
  cases asks : request? .defaults document with
  | none =>
      obtain ⟨value, state⟩ := extractContext_of_silent
        (⟨.defaults, resolverOf client⟩ : Assembler World) asks (.ok []) world
      exact .nothing value (congrArg World.network state)
  | some call =>
      obtain ⟨value, state⟩ := extractContext_of_asking
        (⟨.defaults, resolverOf client⟩ : Assembler World) asks world
      obtain ⟨answer, asked⟩ :=
        Asks.query isHome (.modules call.language call.packages) world
      refine ⟨value.trans (congrArg (outcomeWith .defaults document) answer), ?_⟩
      rw [state]
      exact asked

end

end LibraryScout.Program
