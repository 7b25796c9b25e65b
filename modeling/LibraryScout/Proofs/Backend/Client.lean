import LibraryScout.Backend.Client
import LibraryScout.Proofs.Http.Network
import LibraryScout.Proofs.Settings.Server

/-!
Contract: one order of a client whose server is in normal form.

Owns:
- what building a client keeps of its settings;
- the request for an order, which there always is, and where it goes;
- `script`, the replies that a client can get, and what an order leaves of them;
- that an order is sent once, and that the first reply of the script settles it.

Does not own: what is asked for, and what comes of a response.
-/

namespace LibraryScout.Backend

open LibraryScout.Http LibraryScout.Settings

namespace Client

/-! ## Building -/

theorem fields_of_ofConfiguration {configuration : Configuration} {client : Client}
    (built : ofConfiguration configuration = .ok client) :
    client.serverUrl = withoutSlashes configuration.serverUrl ∧
      client.userKey? = configuration.userKey? ∧
      client.timeoutSeconds = configuration.timeoutSeconds := by
  unfold ofConfiguration at built
  split at built
  · cases built
  · dsimp only at built
    split at built
    · obtain rfl := Except.ok.inj built
      exact ⟨rfl, rfl, rfl⟩
    · split at built
      · obtain rfl := Except.ok.inj built
        exact ⟨rfl, rfl, rfl⟩
      · cases built

theorem withoutSlashes_of_getLast? {text : String} (noSlash : text.toList.getLast? ≠ some '/') :
    withoutSlashes text = text := by
  have stops : Text.StopsBefore (fun character => decide (character = '/'))
      text.toList.reverse := by
    intro character last
    rw [List.head?_reverse] at last
    exact decide_eq_false fun slash => noSlash (slash ▸ last)
  have same : text.toList.reverse.dropWhile (fun character => decide (character = '/')) =
      text.toList.reverse :=
    Text.dropWhile_of_stopsBefore stops
  rw [withoutSlashes, same, List.reverse_reverse, String.ofList_toList]

/-- A client for a server that normalising gives, and that it also takes, talks to just that
server. -/
theorem exists_isHome_of_ofConfiguration {configuration : Configuration} {client : Client}
    {again : String} (hasForm : HasServerForm configuration.serverUrl)
    (taken : normalizeServer configuration.serverUrl = .ok again)
    (built : ofConfiguration configuration = .ok client) :
    ∃ home, IsHome client.serverUrl home := by
  obtain ⟨home, isHome⟩ := exists_isHome hasForm taken
  obtain ⟨serverUrl, _, _⟩ := fields_of_ofConfiguration built
  rw [serverUrl, withoutSlashes_of_getLast? isHome.noSlash]
  exact ⟨home, isHome⟩

/-! ## Requests -/

/-- The URL to which an order goes on a server. -/
def Order.url (order : Order) (home : Url) : Url :=
  order.query.foldl (fun url (name, value) =>
      url.withField name value Url.Percent.encodeFormField)
    { home.withoutUser with path := order.path, query? := none, fragment? := none }

/-- Adding fields changes the query alone. -/
theorem foldl_withField_eq (fields : List (String × String)) (url : Url) :
    fields.foldl (fun url (name, value) =>
        url.withField name value Url.Percent.encodeFormField) url =
      { url with query? := (fields.foldl (fun url (name, value) =>
        url.withField name value Url.Percent.encodeFormField) url).query? } := by
  induction fields generalizing url with
  | nil => rfl
  | cons field later inductionHypothesis => exact inductionHypothesis _

/-- Two URLs that differ at most in user, query and fragment. -/
structure SamePlace (first second : Url) : Prop where
  scheme : first.scheme = second.scheme
  host? : first.host? = second.host?
  port? : first.port? = second.port?
  path : first.path = second.path

theorem samePlace_foldl_withField (fields : List (String × String)) (url : Url) :
    SamePlace (fields.foldl (fun url (name, value) =>
      url.withField name value Url.Percent.encodeFormField) url) url := by
  rw [foldl_withField_eq]
  exact ⟨rfl, rfl, rfl, rfl⟩

theorem Order.samePlace_url (order : Order) (home : Url) :
    SamePlace (order.url home) { home with path := order.path } := by
  have same := samePlace_foldl_withField order.query
    { home.withoutUser with path := order.path, query? := none, fragment? := none }
  exact ⟨same.scheme, same.host?, same.port?, same.path⟩

section

variable {client : Client} {home : Url} (isHome : IsHome client.serverUrl home) {order : Order}

include isHome

/-- There is a request for every order with a plain path, by its method and to its path. -/
theorem request_of_isHome (isPath : Url.IsPlainPath order.path.toList) :
    ∃ request, client.request order = .ok request ∧ request.method = order.method ∧
      request.url = order.url home := by
  unfold request
  rw [urlText, isHome.readPath order.path isPath]
  exact ⟨_, rfl, rfl, rfl⟩

theorem isSendable_url : isSendable (order.url home) = true := by
  have same := order.samePlace_url home
  obtain ⟨host, hosted, nonempty⟩ := isHome.hosted
  have http : home.scheme = "http" ∨ home.scheme = "https" := isHome.http
  simp [isSendable, hasHost, same.host?, same.scheme, hosted, nonempty, http]

end

/-- Whether a request gets to the server does not depend on its path. -/
theorem isReached_url (order : Order) (home : Url) (network : Network) (proxy? : Option Url) :
    network.isReached proxy? (order.url home) = network.isReached proxy? home := by
  have same := order.samePlace_url home
  unfold Network.isReached firstStop
  cases usedProxy? proxy? with
  | some proxy => simp only [Option.getD_some, same.scheme]
  | none =>
      have sameAddress : addressOf (order.url home) = addressOf home := by
        simp only [addressOf, Url.portOrDefault?, same.scheme, same.host?, same.port?]
      simp only [Option.getD_none, same.scheme, sameAddress]

/-! ## The script of a client -/

/-- Whether the requests of a client get to the server of a network. -/
def reaches (client : Client) (network : Network) : Bool :=
  match Url.parse client.serverUrl with
  | .ok home => network.isReached client.proxy? home
  | .error _ => false

/-- The replies that a client can get. -/
def script (client : Client) (network : Network) : List Reply :=
  if client.reaches network then network.replies else []

/-- What gets to a server depends on its address alone. -/
theorem script_of_server? (client : Client) {after : Network} (before : Network)
    (same : after.server? = before.server?) :
    client.script after = if client.reaches before then after.replies else [] := by
  unfold script reaches Network.isReached
  rw [same]

/-- What is sent for an order, and whether it is read. -/
def attempt? (client : Client) (order : Order) (reply? : Option Reply) : Option Attempt :=
  (client.request order).toOption.map fun request =>
    ⟨request.received (usedProxy? client.proxy?).isSome, reply?.any Reply.readsRequest⟩

/-- What comes of an order with its reply. Without a reply it is as if the connection had been
closed. -/
def outcome (client : Client) (order : Order) (reply? : Option Reply) :
    Except SendFault Response :=
  match client.request order with
  | .error fault => .error fault
  | .ok request => (reply?.getD .close).outcome request.url

/-- A network after one more order: the order was sent once, with the first reply of the script, and
the later replies are left. -/
structure Sent (client : Client) (order : Order) (before after : Network) : Prop where
  attempts : ∃ attempt, client.attempt? order (client.script before).head? = some attempt ∧
    after.attempts = before.attempts ++ [attempt]
  script : client.script after = (client.script before).tail

section

variable {client : Client} {home : Url} (isHome : IsHome client.serverUrl home)

include isHome

theorem reaches_of_isHome (network : Network) :
    client.reaches network = network.isReached client.proxy? home := by
  rw [reaches, isHome.read]

theorem reply?_of_isHome (order : Order) (network : Network) :
    network.reply? client.proxy? (order.url home) = (client.script network).head? := by
  rw [Network.reply?, isReached_url, script, reaches_of_isHome isHome]
  cases network.isReached client.proxy? home with
  | false => rfl
  | true => rfl

/-- An order is sent once, and its reply settles it; without a reply it fails as one that was
interrupted or could not be sent. -/
theorem exchange_of_isHome {order : Order} (isPath : Url.IsPlainPath order.path.toList)
    (network : Network) :
    let reply? := (client.script network).head?
    let ran := client.exchange order network
    Sent client order network ran.state ∧
      (ran.value = client.outcome order reply? ∨ ∃ url,
        client.outcome order reply? = .error (.interrupted url) ∧
          ran.value = .error (.unreachable url)) := by
  obtain ⟨request, requested, _, sameUrl⟩ := request_of_isHome isHome isPath
  have sendable : isSendable request.url = true := sameUrl ▸ isSendable_url isHome
  have next : network.reply? client.proxy? request.url = (client.script network).head? :=
    sameUrl ▸ reply?_of_isHome isHome order network
  have attempted : ∀ reply?, client.attempt? order reply? =
      some ⟨request.received (usedProxy? client.proxy?).isSome, reply?.any Reply.readsRequest⟩ := by
    intro reply?
    rw [attempt?, requested]
    rfl
  intro reply? ran
  have sent : ran = send client.proxy? request network := by
    simp only [ran, exchange, requested]
  -- a reply of the script is taken; without one the request is recorded and the script stays empty
  cases first : (client.script network).head? with
  | some reply =>
      rw [first] at next
      have taken := sent.trans (send_of_reply sendable next)
      refine ⟨⟨⟨_, attempted _, ?_⟩, ?_⟩, .inl ?_⟩
      · simp only [taken, first, Network.withAttempt_attempts, Option.any_some]
      · have sameServer : ran.state.server? = network.server? := by
          simp only [taken, Network.withAttempt_server?]
        rw [client.script_of_server? network sameServer, taken, Network.withAttempt_replies, script]
        split <;> rfl
      · simp only [reply?, first, outcome, requested, taken, Option.getD_some]
  | none =>
      rw [first] at next
      obtain ⟨value, state⟩ := send_of_no_reply sendable next
      rw [← sent] at value state
      refine ⟨⟨⟨_, attempted _, ?_⟩, ?_⟩, ?_⟩
      · simp only [state, first, Network.withAttempt_attempts, Option.any_none]
      · have sameServer : ran.state.server? = network.server? := by
          simp only [state, Network.withAttempt_server?]
        rw [client.script_of_server? network sameServer, state, Network.withAttempt_replies,
          List.head?_eq_none_iff.1 first]
        exact List.head?_eq_none_iff.1 first
      · simp only [reply?, first, outcome, requested, Option.getD_none]
        rcases value with interrupted | unreachable
        · exact .inl interrupted
        · exact .inr ⟨request.url, rfl, unreachable⟩

end

end Client

end LibraryScout.Backend
