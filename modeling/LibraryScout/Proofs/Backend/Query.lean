import LibraryScout.Proofs.Backend.Client

/-!
Contract: the queries of the service, and how a reply settles them.

Owns:
- `Query`, everything that a client asks the service for data, with the type of its answer;
- `Settled`, the cases of a result, each with the replies that lead to it;
- that the result of every query is settled by the one reply to it.

The cases are read off a reply in the order in which it can fail: no response, no whole body, no
success, no answer of the right type. Each rules the later ones out, and together they leave no
reply over.

Does not own: feedback, whose answer is not read; queries that get no reply.
-/

namespace LibraryScout.Backend

open LibraryScout.Http LibraryScout.Json LibraryScout.Settings LibraryScout.Source

/-! ## Queries -/

/-- What a client can ask the service for. -/
inductive Query where
  | modules (language : Language) (packages : List String)
  | search (language : Language) (context : Context) (intent : String) (filter? : Option String)
  | categories (language : Language) (num : Nat) (context : Context) (filter? : Option String)
  | snippets (language : Language)
  | intents (language : Language)
  | libraries (language : Language)

namespace Query

abbrev Answer : Query → Type
  | modules _ _ => List String
  | search _ _ _ _ => SearchResponse
  | categories _ _ _ _ => Categories
  | snippets _ => Snippets
  | intents _ => List Json
  | libraries _ => Libraries

def decoder : (query : Query) → Decoder query.Answer
  | modules _ _ => Decoder.list Decoder.text
  | search _ _ _ _ => SearchResponse.decoder
  | categories _ _ _ _ => Categories.decoder
  | snippets _ => Decoder.map
  | intents _ => Decoder.list Decoder.any
  | libraries _ => Libraries.decoder

def order : Query → Client.Order
  | modules language packages => Client.modulesOrder language packages
  | search language context intent filter? =>
      Client.searchOrder language (SearchRequest.of context intent filter?)
  | categories language num context filter? => Client.categoriesOrder language num context filter?
  | snippets language => Client.snippetsOrder language
  | intents language => Client.intentsOrder language
  | libraries language => Client.librariesOrder language

def ask (client : Client) : (query : Query) → Run Network (Except Error query.Answer)
  | modules language packages => client.modules language packages
  | search language context intent filter? => client.search language context intent filter?
  | categories language num context filter? => client.categories language num context filter?
  | snippets language => client.snippets language
  | intents language => client.intents language
  | libraries language => client.libraries language

end Query

theorem Client.ask_apply {α : Type} (client : Client) (order : Client.Order) (decoder : Decoder α)
    (network : Network) :
    let exchanged := client.exchange order network
    let ran := client.ask order decoder network
    ran.value = (client.judge order decoder exchanged.value).1 ∧
      ran.state = exchanged.state := by
  unfold ask
  simp only [Run.bind_apply]
  generalize client.exchange order network = exchanged
  cases client.judge order decoder exchanged.value with
  | mk result events => exact ⟨rfl, rfl⟩

/-- The calls of a client differ in nothing but the order, the reading of the answer and what they
report. -/
theorem Query.ask_apply (client : Client) (query : Query) (network : Network) :
    let exchanged := client.exchange query.order network
    let ran := query.ask client network
    ran.value = (client.judge query.order query.decoder exchanged.value).1 ∧
      ran.state = exchanged.state := by
  obtain ⟨value, state⟩ := client.ask_apply query.order query.decoder network
  suffices same : (query.ask client network).value =
        (client.ask query.order query.decoder network).value ∧
      (query.ask client network).state = (client.ask query.order query.decoder network).state from
    ⟨same.1.trans value, same.2.trans state⟩
  cases query with
  | modules language packages =>
      simp only [Query.ask, Query.order, Query.decoder, Client.modules, and_self]
  | search language context intent filter? =>
      simp only [Query.ask, Query.order, Query.decoder, Client.search, and_self]
  | categories language num context filter? =>
      simp only [Query.ask, Query.order, Query.decoder, Client.categories, and_self]
  | intents language =>
      simp only [Query.ask, Query.order, Query.decoder, Client.intents, and_self]
  | snippets language =>
      simp only [Query.ask, Query.order, Query.decoder, Client.snippets, Run.bind_apply]
      generalize client.ask (Client.snippetsOrder language) Decoder.map network = asked
      cases asked.value with
      | ok found => exact ⟨rfl, rfl⟩
      | error failure => exact ⟨rfl, rfl⟩
  | libraries language =>
      simp only [Query.ask, Query.order, Query.decoder, Client.libraries, Run.bind_apply]
      generalize client.ask (Client.librariesOrder language) Libraries.decoder network = asked
      cases asked.value with
      | ok found => exact ⟨rfl, rfl⟩
      | error failure => exact ⟨rfl, rfl⟩

/-! ## The paths of the service -/

theorem allPlain_name (language : Language) : language.name.toList.all Url.isPlain = true := by
  cases language <;> decide

theorem allPlain_number (number : Nat) : (toString number).toList.all Url.isPlain = true := by
  rw [Nat.toString_eq_ofList_toDigits, String.toList_ofList]
  refine List.all_eq_true.2 fun character member => ?_
  have digit := Nat.isDigit_of_mem_toDigits (by decide) (by decide) member
  simp [Url.isPlain, Char.isAlphanum, digit]

/-- Fixed words, the name of a language and a number make a plain path. -/
theorem Query.isPlainPath_order (query : Query) : Url.IsPlainPath query.order.path.toList := by
  have named : ∀ {front : String}, Url.IsPlainPath front.toList → ∀ language : Language,
      Url.IsPlainPath (front ++ language.name).toList := fun rooted language =>
    rooted.append (allPlain_name language)
  have numbered : ∀ {front : String}, Url.IsPlainPath front.toList →
      ∀ (language : Language) (num : Nat),
        Url.IsPlainPath (front ++ (language.name ++ "/" ++ toString num)).toList := by
    intro front rooted language num
    rw [← String.append_assoc, ← String.append_assoc]
    exact ((named rooted language).append (by decide)).append (allPlain_number num)
  cases query with
  | modules language packages => exact (named ⟨rfl, by decide⟩ language).append (by decide)
  | search language context intent filter? => exact named ⟨rfl, by decide⟩ language
  | categories language num context filter? =>
      simp only [order, Client.categoriesOrder]
      split
      · exact numbered ⟨rfl, by decide⟩ language num
      · exact numbered ⟨rfl, by decide⟩ language num
  | snippets language => exact named ⟨rfl, by decide⟩ language
  | intents language => exact named ⟨rfl, by decide⟩ language
  | libraries language => exact named ⟨rfl, by decide⟩ language

/-! ## The one reply -/

/-- A reply that can be the last word on a request: its status, if it has one, is final. -/
def IsFinal : Reply → Prop
  | .answer response => 200 ≤ response.status ∧ response.status < 1000
  | _ => True

def Delivers (reply : Reply) (status : Status) (text : String) : Prop :=
  ∃ response, reply = .answer response ∧ response.status = status ∧
    response.delivered.text? = some text

def IsCutShort (reply : Reply) : Prop :=
  ∃ response, reply = .answer response ∧ response.delivered.text? = none

/-- A result that a reply settles, by cases that are told apart by the reply alone. A client waits
for a number of seconds and reads answers of one type. -/
structure Settled {α : Type} (seconds : Nat) (decoder : Decoder α) (reply : Reply)
    (result : Except Error α) : Prop where
  /-- The connection was closed before a response. -/
  network : (∃ message, result = .error (.network message)) ↔ reply = .close
  /-- There was no response in time. -/
  timeout : ∀ waited, result = .error (.timeout waited) ↔ reply = .silence ∧ waited = seconds
  /-- Whatever the status is, a body that was cut short leaves nothing to show. -/
  cutShort : (∃ message, result = .error (.invalidResponse message none)) ↔ IsCutShort reply
  /-- A status that is no success, with the body in the message. -/
  api : ∀ message status?, result = .error (.api message status?) ↔
    ∃ status text, Delivers reply status text ∧ ¬(200 ≤ status ∧ status ≤ 299) ∧
      status? = some status ∧ message = "HTTP " ++ Status.text status ++ ": " ++ text
  /-- A success with an answer of the right type. -/
  ok : ∀ value, result = .ok value ↔
    ∃ status text, Delivers reply status text ∧ (200 ≤ status ∧ status ≤ 299) ∧
      Json.decode decoder text = .ok value
  /-- A success with any other body, of which 512 characters are kept. -/
  unreadable : ∀ message raw, result = .error (.invalidResponse message (some raw)) ↔
    ∃ status text, Delivers reply status text ∧ (200 ≤ status ∧ status ≤ 299) ∧
      ∃ fault, Json.decode decoder text = .error fault ∧
        message = "JSON parse error: " ++ fault.message text.toList ∧
        raw = if text.length ≤ 512 then text else String.ofList (text.toList.take 512) ++ "..."
  /-- Replies say nothing about settings. -/
  configuration : ∀ message, result ≠ .error (.configuration message)

section

variable {α : Type} {seconds : Nat} {decoder : Decoder α}

/-- A response with a whole body delivers its own status and that body, and nothing else. -/
theorem exists_delivers {response : Response} {text : String}
    (whole : response.delivered.text? = some text) (holds : Status → String → Prop) :
    (∃ status text, Delivers (.answer response) status text ∧ holds status text) ↔
      holds response.status text := by
  constructor
  · rintro ⟨_, _, ⟨_, answered, rfl, delivered⟩, held⟩
    obtain rfl := Reply.answer.inj answered
    obtain rfl := Option.some.inj (whole.symm.trans delivered)
    exact held
  · exact fun held => ⟨_, _, ⟨response, rfl, rfl, whole⟩, held⟩

theorem not_isCutShort {response : Response} {text : String}
    (whole : response.delivered.text? = some text) : ¬ IsCutShort (.answer response) := by
  simp [IsCutShort, whole]

theorem settled_close (message : String) :
    Settled seconds decoder .close (.error (.network message)) := by
  constructor <;> simp [Delivers, IsCutShort]

theorem settled_silence : Settled seconds decoder .silence (.error (.timeout seconds)) := by
  constructor <;> simp [Delivers, IsCutShort, eq_comm]

theorem settled_cutShort {response : Response} (cut : response.delivered.text? = none)
    (message : String) :
    Settled seconds decoder (.answer response) (.error (.invalidResponse message none)) := by
  constructor <;> simp [Delivers, IsCutShort, cut]

section

variable {response : Response} {text : String} (whole : response.delivered.text? = some text)

include whole

theorem settled_refused (refused : ¬(200 ≤ response.status ∧ response.status ≤ 299)) :
    Settled seconds decoder (.answer response)
      (.error (.api ("HTTP " ++ Status.text response.status ++ ": " ++ text)
        (some response.status))) := by
  have noSuccess : ∀ holds : Status → String → Prop,
      ¬∃ status text, Delivers (.answer response) status text ∧
        (200 ≤ status ∧ status ≤ 299) ∧ holds status text := by
    intro holds
    rw [exists_delivers whole]
    exact fun success => refused success.1
  constructor
  -- `-not_and` keeps the refusal in the form in which the case states it
  case api =>
    intro message status?
    rw [exists_delivers whole]
    simp [-not_and, refused, and_comm, eq_comm]
  all_goals simp [noSuccess, not_isCutShort whole]

theorem settled_ok (success : 200 ≤ response.status ∧ response.status ≤ 299) {value : α}
    (decoded : Json.decode decoder text = .ok value) :
    Settled seconds decoder (.answer response) (.ok value) := by
  constructor <;> simp [exists_delivers whole, not_isCutShort whole, success, decoded]

theorem settled_unreadable (success : 200 ≤ response.status ∧ response.status ≤ 299)
    {fault : Json.Fault} (unread : Json.decode decoder text = .error fault) :
    Settled seconds decoder (.answer response)
      (.error (.invalidResponse ("JSON parse error: " ++ fault.message text.toList)
        (some (if text.length ≤ 512 then text
          else String.ofList (text.toList.take 512) ++ "...")))) := by
  constructor <;> simp [exists_delivers whole, not_isCutShort whole, success, unread, eq_comm]

end

end

/-! ## What a client makes of a reply -/

theorem Client.excerpt_eq (text : String) :
    excerpt text = if text.length ≤ 512 then text
      else String.ofList (text.toList.take 512) ++ "..." := by
  unfold excerpt longestExcerpt
  by_cases short : text.length ≤ 512
  · rw [if_pos short, if_neg (Nat.not_lt.2 short)]
  · rw [if_neg short, if_pos (Nat.not_le.1 short)]

@[simp] theorem delivered_status (response : Response) :
    response.delivered.status = response.status := by
  unfold Response.delivered
  split <;> rfl

/-- The checks of a client, in their order, come to the cases of `Settled`. -/
theorem Client.judge_settled {α : Type} (client : Client) (order : Order) (decoder : Decoder α)
    (url : Url) {reply : Reply} (final : IsFinal reply) :
    Settled client.timeoutSeconds decoder reply
      (client.judge order decoder (reply.outcome url)).1 := by
  cases reply with
  | close => exact settled_close _
  | silence => exact settled_silence
  | answer response =>
      have usable : Status.isUnusable response.status = false := by
        simpa [IsFinal, Status.isUnusable] using final
      simp only [Reply.outcome, usable, judge, Bool.false_eq_true, if_false]
      -- the body is read before the status is looked at, so a cut body goes before a refusal
      cases body : response.delivered.text? with
      | none => exact settled_cutShort body _
      | some text =>
          by_cases success : 200 ≤ response.status ∧ response.status ≤ 299
          · have isSuccess : Status.isSuccess response.status = true := by
              simpa [Status.isSuccess] using success
            simp only [delivered_status, isSuccess, if_true]
            cases read : Json.decode decoder text with
            | ok value => exact settled_ok body success read
            | error fault =>
                rw [excerpt_eq]
                exact settled_unreadable body success read
          · have noSuccess : Status.isSuccess response.status = false := by
              simpa [Status.isSuccess] using success
            simp only [delivered_status, noSuccess, Bool.false_eq_true, if_false]
            exact settled_refused body success

/-- The result of every query that gets a reply is settled by that reply. -/
theorem ask_settled {configuration : Configuration} {client : Client}
    (built : Client.ofConfiguration configuration = .ok client) (query : Query) {request : Request}
    (requested : client.request query.order = .ok request)
    (sendable : isSendable request.url = true) {network : Network} {reply : Reply}
    (next : network.reply? client.proxy? request.url = some reply) (final : IsFinal reply) :
    Settled configuration.timeoutSeconds query.decoder reply (query.ask client network).value := by
  obtain ⟨value, _⟩ := query.ask_apply client network
  have exchanged : (client.exchange query.order network).value = reply.outcome request.url := by
    rw [Client.exchange, requested]
    exact congrArg Ran.value (send_of_reply sendable next)
  obtain ⟨_, _, timeoutSeconds⟩ := Client.fields_of_ofConfiguration built
  rw [value, exchanged, ← timeoutSeconds]
  exact client.judge_settled query.order query.decoder request.url final

/-- A value that a computation without faults gives; values can be compared where faults cannot. -/
theorem eq_ok_of_toOption {ε α : Type} {result : Except ε α} {value : α}
    (given : result.toOption = some value) : result = .ok value := by
  cases result with
  | error fault => simp [Except.toOption] at given
  | ok found => exact congrArg Except.ok (Option.some.inj given)

/-- A refusal whose body is cut short is no refusal to the client. -/
theorem ask_settled_cut_refusal :
    let client : Client := ⟨"http://127.0.0.1:80", none, none, 10⟩
    let network : Network :=
      ⟨some "127.0.0.1:80", [.answer ⟨404, "text/plain", [], false⟩, .silence], []⟩
    ∃ message, ((Query.intents .java).ask client network).value =
      .error (.invalidResponse message none) := by
  intro client network
  have built : Client.ofConfiguration ⟨"http://127.0.0.1:80", none, none, 10, "info"⟩ =
      .ok client := by
    rfl
  let url : Url := ⟨"http", "", none, some (.ipv4 2130706433), none, "/intents/java", none, none⟩
  have requested : client.request (Query.intents .java).order =
      .ok ⟨.get, url, [("accept", "*/*"), ("vscode_plugin_key", clientKey)], ""⟩ :=
    eq_ok_of_toOption (by decide +kernel)
  have next : network.reply? client.proxy? url =
      some (.answer ⟨404, "text/plain", [], false⟩) := by
    decide +kernel
  have settled := ask_settled built (.intents .java) requested (by decide +kernel) next
    ⟨by decide, by decide⟩
  exact settled.cutShort.2 ⟨_, rfl, rfl⟩

end LibraryScout.Backend
