import LibraryScout.Proofs.Assembly.Document
import LibraryScout.Proofs.Backend.Query

/-!
Contract: calls of one client, one after another.

Owns:
- `Step`, a call of the client or documents for an assembler that asks it;
- `Step.order?`, the one order that a step sends, if it sends any;
- `Step.valueWith`, the result of a step as a function of the step, the client and one reply;
- the account of a whole run: which requests were sent, and which reply settled which step.

The invariant is the script: before every step it is the first script without as many replies as
orders were sent. So the number of orders before a step is the place of its reply, and nothing else
of what happened before reaches it.

Does not own: what a reply comes to.
-/

namespace LibraryScout.Backend

open LibraryScout.Assembly LibraryScout.Http LibraryScout.Settings LibraryScout.Source

/-! ## Steps -/

/-- A call of the client, or documents handed to an assembler whose packages it resolves. -/
inductive Step where
  | query (query : Query)
  | feedback (body : Json)
  | context (registry : Registry) (document : Document)
  | active (registry : Registry) (active? : Option Document) (visible : List Document)

namespace Step

/-- What a step results in. -/
abbrev Value : Step → Type
  | query asked => Except Error asked.Answer
  | feedback _ => Except Error Unit
  | context _ _ => Except Failure Outcome
  | active _ _ _ => Except Failure Outcome

def run (client : Client) : (step : Step) → Run Network step.Value
  | query asked => asked.ask client
  | feedback body => client.feedback body
  | context registry document =>
      (⟨registry, client.resolver⟩ : Assembler Network).extractContext document.fileName
        document.text
  | active registry active? visible =>
      (⟨registry, client.resolver⟩ : Assembler Network).extractActive active? visible

def callOrder (call : Call) : Client.Order :=
  Client.modulesOrder call.language call.packages

/-- The order that a step sends: every direct call sends one, and documents send one if they make a
call of their resolver. -/
def order? (client : Client) : Step → Option Client.Order
  | query asked => some asked.order
  | feedback body => some (client.feedbackOrder body)
  | context registry document => (request? registry document).map callOrder
  | active registry active? visible =>
      (selectedRequest? registry (Assembler.selected? active? visible)).map callOrder

end Step

def Query.valueWith (client : Client) (query : Query) (reply? : Option Reply) :
    Except Error query.Answer :=
  (client.judge query.order query.decoder (client.outcome query.order reply?)).1

/-- The answer to the call of a document with its reply, if there is a call to answer. -/
def answerWith (client : Client) (call? : Option Call) (reply? : Option Reply) : Answer :=
  match call? with
  | some call => (Query.modules call.language call.packages).valueWith client reply?
  | none => .ok []

namespace Step

def valueWith (client : Client) : (step : Step) → Option Reply → step.Value
  | query asked, reply? => asked.valueWith client reply?
  | feedback body, reply? =>
      let order := client.feedbackOrder body
      (client.judgeFeedback order (client.outcome order reply?)).1
  | context registry document, reply? =>
      outcomeWith registry document (answerWith client (request? registry document) reply?)
  | active registry active? visible, reply? =>
      let document? := Assembler.selected? active? visible
      selectedOutcomeWith registry document?
        (answerWith client (selectedRequest? registry document?) reply?)

/-- The failure of the service that a step ended with. -/
def failure? : (step : Step) → step.Value → Option Error
  | query _, .error error => some error
  | feedback _, .error error => some error
  | context _ _, .error failure => some failure.source
  | active _ _ _, .error failure => some failure.source
  | query _, .ok _ => none
  | feedback _, .ok _ => none
  | context _ _, .ok _ => none
  | active _ _ _, .ok _ => none

end Step

/-! ## One step -/

/-- A step that sends nothing leaves the network alone; one that sends an order sends it once. -/
def After (client : Client) (order? : Option Client.Order) (before after : Network) : Prop :=
  match order? with
  | some order => Client.Sent client order before after
  | none => after = before

/-- What is sent for orders, with a script of replies. -/
def Client.attempts (client : Client) (orders : List Order) (script : List Reply) :
    List (Option Attempt) :=
  orders.mapIdx fun place order => client.attempt? order script[place]?

theorem Client.attempts_append (client : Client) (first second : List Order)
    (script : List Reply) :
    client.attempts (first ++ second) script =
      client.attempts first script ++ client.attempts second (script.drop first.length) := by
  simp [attempts, List.mapIdx_append, Nat.add_comm]

/-- A network after orders were sent, each once and in their order. A reply was taken for every one
as long as there were some. -/
structure Asked (client : Client) (orders : List Client.Order) (before after : Network) :
    Prop where
  attempts : ∃ sent, after.attempts = before.attempts ++ sent ∧
    sent.map some = client.attempts orders (client.script before)
  script : client.script after = (client.script before).drop orders.length

section

variable {client : Client} {before after : Network}

theorem Asked.nothing (client : Client) (network : Network) : Asked client [] network network :=
  ⟨⟨[], by simp [Client.attempts]⟩, rfl⟩

theorem Asked.append {between : Network} {first second : List Client.Order}
    (firstAsked : Asked client first before between)
    (secondAsked : Asked client second between after) :
    Asked client (first ++ second) before after := by
  obtain ⟨⟨firstSent, firstAdded, firstRequested⟩, firstScript⟩ := firstAsked
  obtain ⟨⟨secondSent, secondAdded, secondRequested⟩, secondScript⟩ := secondAsked
  refine ⟨⟨firstSent ++ secondSent, ?_, ?_⟩, ?_⟩
  · rw [secondAdded, firstAdded, List.append_assoc]
  · rw [List.map_append, firstRequested, secondRequested, Client.attempts_append, firstScript]
  · rw [secondScript, firstScript, List.drop_drop, List.length_append]

theorem After.asked {order? : Option Client.Order} (step : After client order? before after) :
    Asked client order?.toList before after := by
  cases order? with
  | none =>
      obtain rfl : after = before := step
      exact Asked.nothing client _
  | some order =>
      obtain ⟨⟨attempt, made, added⟩, rest⟩ := step
      refine ⟨⟨[attempt], added, by simp [Client.attempts, ← made, List.head?_eq_getElem?]⟩, ?_⟩
      rw [rest]
      exact List.drop_one.symm

end

theorem isPlainPath_feedbackOrder (client : Client) (body : Json) :
    Url.IsPlainPath (client.feedbackOrder body).path.toList := by
  have fixed : Url.IsPlainPath "/feedback".toList := ⟨rfl, by decide⟩
  exact fixed

theorem Client.feedback_apply (client : Client) (body : Json) (network : Network) :
    let order := client.feedbackOrder body
    let exchanged := client.exchange order network
    let ran := client.feedback body network
    ran.value = (client.judgeFeedback order exchanged.value).1 ∧ ran.state = exchanged.state := by
  unfold feedback
  simp only [Run.bind_apply]
  generalize client.exchange (client.feedbackOrder body) network = exchanged
  cases client.judgeFeedback (client.feedbackOrder body) exchanged.value with
  | mk result events => exact ⟨rfl, rfl⟩

section

variable {client : Client} {home : Url} (isHome : IsHome client.serverUrl home)

include isHome

theorem Query.ask_of_isHome (query : Query) (network : Network) :
    let ran := query.ask client network
    ran.value = query.valueWith client (client.script network).head? ∧
      Client.Sent client query.order network ran.state := by
  obtain ⟨value, state⟩ := query.ask_apply client network
  obtain ⟨sent, outcome⟩ := Client.exchange_of_isHome isHome query.isPlainPath_order network
  dsimp only
  rw [value, state]
  refine ⟨?_, sent⟩
  -- a server that is not reached and one that closes the connection come to the same failure
  rcases outcome with same | ⟨url, interrupted, unreachable⟩
  · rw [same, valueWith]
  · rw [unreachable, valueWith, interrupted]
    rfl

theorem Client.feedback_of_isHome (body : Json) (network : Network) :
    let order := client.feedbackOrder body
    let ran := client.feedback body network
    ran.value =
        (client.judgeFeedback order (client.outcome order (client.script network).head?)).1 ∧
      client.Sent order network ran.state := by
  obtain ⟨sent, outcome⟩ :=
    exchange_of_isHome isHome (isPlainPath_feedbackOrder client body) network
  obtain ⟨value, state⟩ := client.feedback_apply body network
  dsimp only
  rw [value, state]
  refine ⟨?_, sent⟩
  rcases outcome with same | ⟨url, interrupted, unreachable⟩
  · rw [same]
  · rw [unreachable, interrupted]
    rfl

/-- A step with an order sends it once and is settled by the first reply of the script. Any other
step leaves the network alone, and no reply matters to it. -/
theorem Step.run_of_isHome (step : Step) (network : Network) :
    let ran := step.run client network
    ran.value = step.valueWith client (client.script network).head? ∧
      After client (step.order? client) network ran.state := by
  cases step with
  | query asked => exact asked.ask_of_isHome isHome network
  | feedback body => exact client.feedback_of_isHome isHome body network
  | context registry document =>
      simp only [run, valueWith, order?]
      cases asks : request? registry document with
      | none => exact extractContext_of_silent ⟨registry, client.resolver⟩ asks _ network
      | some call =>
          obtain ⟨value, state⟩ :=
            extractContext_of_asking ⟨registry, client.resolver⟩ asks network
          obtain ⟨answer, sent⟩ :=
            (Query.modules call.language call.packages).ask_of_isHome isHome network
          refine ⟨value.trans (congrArg (outcomeWith registry document) answer), ?_⟩
          rw [state]
          exact sent
  | active registry active? visible =>
      simp only [run, valueWith, order?]
      cases asks : selectedRequest? registry (Assembler.selected? active? visible) with
      | none => exact extractActive_of_silent ⟨registry, client.resolver⟩ asks _ network
      | some call =>
          obtain ⟨value, state⟩ :=
            extractActive_of_asking ⟨registry, client.resolver⟩ asks network
          obtain ⟨answer, sent⟩ :=
            (Query.modules call.language call.packages).ask_of_isHome isHome network
          refine ⟨value.trans (congrArg (selectedOutcomeWith registry _) answer), ?_⟩
          rw [state]
          exact sent

theorem Client.outcome_none {order : Order} (isPath : Url.IsPlainPath order.path.toList) :
    ∃ url, client.outcome order none = .error (.interrupted url) := by
  obtain ⟨request, requested, _, _⟩ := request_of_isHome isHome isPath
  rw [outcome, requested]
  exact ⟨request.url, rfl⟩

theorem Query.valueWith_none (query : Query) :
    ∃ message, query.valueWith client none = .error (.network message) := by
  obtain ⟨url, interrupted⟩ := Client.outcome_none isHome query.isPlainPath_order
  rw [valueWith, interrupted]
  exact ⟨_, rfl⟩

end

/-! ## A run -/

namespace Client

/-- Carries out steps one after another. Whatever a step ends with, the next one follows. -/
def carryOut (client : Client) : List Step → Run Network (List (Σ step : Step, step.Value))
  | [] => return []
  | step :: later => do
      let value ← step.run client
      let values ← client.carryOut later
      return ⟨step, value⟩ :: values

def orders (client : Client) (steps : List Step) : List Order :=
  steps.filterMap (Step.order? client)

@[simp] theorem orders_nil (client : Client) : client.orders [] = [] := rfl

theorem orders_cons (client : Client) (step : Step) (later : List Step) :
    client.orders (step :: later) = (step.order? client).toList ++ client.orders later := by
  unfold orders
  cases asks : step.order? client with
  | none => simp [asks]
  | some order => simp [asks]

/-- How many orders are sent before a step. -/
def place (client : Client) (steps : List Step) (position : Nat) : Nat :=
  (client.orders (steps.take position)).length

theorem place_cons_succ (client : Client) (step : Step) (later : List Step) (position : Nat) :
    client.place (step :: later) (position + 1) =
      (step.order? client).toList.length + client.place later position := by
  rw [place, List.take_succ_cons, orders_cons, List.length_append, place]

theorem orders_getElem?_place {client : Client} {steps : List Step} {position : Nat} {step : Step}
    {order : Order} (here : steps[position]? = some step)
    (asks : step.order? client = some order) :
    (client.orders steps)[client.place steps position]? = some order := by
  induction steps generalizing position with
  | nil => cases here
  | cons first later inductionHypothesis =>
      rw [orders_cons]
      cases position with
      | zero =>
          obtain rfl := Option.some.inj here
          rw [asks]
          rfl
      | succ position =>
          rw [place_cons_succ, List.getElem?_append_right (Nat.le_add_right _ _),
            Nat.add_sub_cancel_left]
          exact inductionHypothesis here

/-- What is sent for the order of a step stands at the place of the step. -/
theorem getElem?_place_of_attempts {client : Client} {sent : List Attempt} {steps : List Step}
    {script : List Reply} (requested : sent.map some = client.attempts (client.orders steps) script)
    {position : Nat} {step : Step} {order : Order} (here : steps[position]? = some step)
    (asks : step.order? client = some order) :
    sent[client.place steps position]? =
      client.attempt? order script[client.place steps position]? := by
  have there : (sent.map some)[client.place steps position]? =
      some (client.attempt? order script[client.place steps position]?) := by
    rw [requested, attempts, List.getElem?_mapIdx, orders_getElem?_place here asks]
    rfl
  rw [List.getElem?_map] at there
  obtain ⟨attempt, found, same⟩ := Option.map_eq_some_iff.1 there
  exact found.trans same

section

variable {client : Client} {home : Url} (isHome : IsHome client.serverUrl home)

include isHome

/-- The network after a run: the orders of all steps were sent. -/
theorem carryOut_state (steps : List Step) (network : Network) :
    Asked client (client.orders steps) network (client.carryOut steps network).state := by
  induction steps generalizing network with
  | nil => exact Asked.nothing client network
  | cons step later inductionHypothesis =>
      obtain ⟨_, state⟩ := step.run_of_isHome isHome network
      have laterAsked := inductionHypothesis (step.run client network).state
      rw [orders_cons]
      exact state.asked.append laterAsked

end

/-! ## The account -/

/-- The account of a run. -/
structure Account (client : Client) (steps : List Step) (network : Network) : Prop where
  /-- Every order is sent exactly once, in the order of the steps, and gets the reply at its own
  place in the script. -/
  attempts : ∃ sent,
    (client.carryOut steps network).state.attempts = network.attempts ++ sent ∧
      sent.map some = client.attempts (client.orders steps) (client.script network)
  /-- What is sent for an order goes to its path by its method. -/
  requests : ∀ order ∈ client.orders steps, ∃ request, client.request order = .ok request ∧
    request.method = order.method ∧ request.url.path = order.path
  /-- A reply is taken for every order as long as there is one, and no other. -/
  script : client.script (client.carryOut steps network).state =
    (client.script network).drop (client.orders steps).length
  /-- Every result is settled by the step, the client and the reply at the place of the step. -/
  results : ∀ position : Nat,
    (client.carryOut steps network).value[position]? = steps[position]?.map fun step =>
      ⟨step, step.valueWith client (client.script network)[client.place steps position]?⟩
  /-- When the script is used up, steps that send an order fail with the network. -/
  unanswered : ∀ (position : Nat) step, steps[position]? = some step → step.order? client ≠ none →
    (client.script network).length ≤ client.place steps position →
    ∃ value message, (client.carryOut steps network).value[position]? = some ⟨step, value⟩ ∧
      step.failure? value = some (.network message)
  /-- In any other run in which the same step has as many orders before it and the same reply, it
  sends the same request and has the same result, whatever the other steps and replies are. -/
  apart : ∀ (others : List Step) (elsewhere : Network) (position : Nat) step,
    steps[position]? = some step → others[position]? = some step →
    client.place others position = client.place steps position →
    (step.order? client ≠ none →
      (client.script elsewhere)[client.place steps position]? =
        (client.script network)[client.place steps position]?) →
    (client.carryOut others elsewhere).value[position]? =
        (client.carryOut steps network).value[position]? ∧
      (step.order? client ≠ none →
        (client.carryOut others elsewhere).state.attempts[
            elsewhere.attempts.length + client.place steps position]? =
          (client.carryOut steps network).state.attempts[
            network.attempts.length + client.place steps position]?)

end Client

end LibraryScout.Backend
