import LibraryScout.Proofs.Backend.Sequence
import LibraryScout.Proofs.Json.Decoding

/-!
Contract: what the service reads in the bodies of requests.

Owns:
- `Carries`, requests that take data to a path, whose bodies are read as these data;
- `Posts`, runs that send one such request and nothing else;
- the path and the data of every call that sends data, and that an empty filter is none.

Does not own: how data is written, what else a request carries, and what comes of it.
-/

namespace LibraryScout.Backend

open LibraryScout.Http LibraryScout.Json LibraryScout.Settings LibraryScout.Source

/-! ## Requests that were sent -/

/-- A request that takes data to a path: its body is read as the data, and its URL is the one that
the path makes after the server, but for the query. -/
structure Carries (client : Client) (path : String) (data : Json) (request : Request) : Prop where
  method : request.method = .post
  body : Json.parse request.body = .ok data
  place : ∃ url, Url.parse (client.serverUrl ++ path) = .ok url ∧
    Client.SamePlace request.url url
  path : ∀ home, IsHome client.serverUrl home →
    Client.SamePlace request.url { home with path }

/-- A run sends data to a path, at most once and nothing else; if requests can be sent to the
server of the client at all, just once. -/
def Posts {α : Type} (client : Client) (run : Run Network α) (path : String) (data : Json) : Prop :=
  ∀ network, ∃ attempts : List Attempt,
    (run network).state.attempts = network.attempts ++ attempts ∧ attempts.length ≤ 1 ∧
    (∀ home, IsHome client.serverUrl home → attempts.length = 1) ∧
    ∀ attempt ∈ attempts, ∃ request : Request,
      attempt.request = request.received (usedProxy? client.proxy?).isSome ∧
      Carries client path data request

namespace Client

/-- A request goes to the URL that its path makes after the server, with the data for a body. -/
theorem request_eq_ok {client : Client} {order : Order} {request : Request}
    (requested : client.request order = .ok request) :
    ∃ url, Url.parse (client.serverUrl ++ order.path) = .ok url ∧ SamePlace request.url url ∧
      request.method = order.method ∧
      ∀ data, order.body? = some data → request.body = data.compact := by
  unfold Client.request Client.urlText at requested
  cases read : Url.parse (client.serverUrl ++ order.path) with
  | error fault =>
      rw [read] at requested
      cases requested
  | ok url =>
      rw [read] at requested
      obtain rfl := Except.ok.inj requested
      have queried := samePlace_foldl_withField order.query url.withoutUser
      refine ⟨url, rfl, ⟨queried.scheme, queried.host?, queried.port?, queried.path⟩, rfl, ?_⟩
      intro data isBody
      simp only [isBody]

theorem carries_of_request {client : Client} {order : Order} {request : Request} {data : Json}
    (requested : client.request order = .ok request) (isPost : order.method = .post)
    (isPath : Url.IsPlainPath order.path.toList) (isBody : order.body? = some data)
    (whole : Whole depthLimit data) : Carries client order.path data request := by
  obtain ⟨url, read, same, method, body⟩ := request_eq_ok requested
  refine ⟨method.trans isPost, ?_, ⟨url, read, same⟩, fun home isHome => ?_⟩
  · rw [body data isBody]
    exact parse_compact whole
  · obtain rfl := Except.ok.inj ((isHome.readPath order.path isPath).symm.trans read)
    exact ⟨same.scheme, same.host?, same.port?, same.path⟩

/-- Whatever the network is, exchanging an order sends its data to its path. -/
theorem posts_exchange (client : Client) {order : Order} {data : Json}
    (isPost : order.method = .post) (isPath : Url.IsPlainPath order.path.toList)
    (isBody : order.body? = some data) (whole : Whole depthLimit data) :
    Posts client (client.exchange order) order.path data := by
  intro network
  cases requested : client.request order with
  | error fault =>
      have state : (client.exchange order network).state = network := by
        rw [exchange, requested]
        rfl
      refine ⟨[], ?_, Nat.zero_le 1, fun home isHome => ?_, List.forall_mem_nil _⟩
      · rw [state, List.append_nil]
      · obtain ⟨request, made, -⟩ := request_of_isHome isHome isPath
        cases requested.symm.trans made
  | ok request =>
      have sends : client.exchange order network = send client.proxy? request network := by
        rw [exchange, requested]
      have carries := carries_of_request requested isPost isPath isBody whole
      rw [sends]
      rcases send_attempts client.proxy? request network with same | ⟨read, added⟩
      · refine ⟨[], ?_, Nat.zero_le 1, fun home isHome => ?_, List.forall_mem_nil _⟩
        · rw [same, List.append_nil]
        · obtain ⟨⟨attempt, -, added⟩, -⟩ := (exchange_of_isHome isHome isPath network).1
          rw [sends, same] at added
          exact absurd (List.self_eq_append_right.1 added) (List.cons_ne_nil _ _)
      · refine ⟨[_], added, Nat.le_refl 1, fun _ _ => rfl, fun attempt member => ?_⟩
        obtain rfl := List.mem_singleton.1 member
        exact ⟨request, rfl, carries⟩

end Client

/-- What a run sends is told by the network it leaves. -/
theorem Posts.of_state {α β : Type} {client : Client} {first : Run Network α}
    {second : Run Network β} {path : String} {data : Json} (posts : Posts client first path data)
    (same : ∀ network, (second network).state = (first network).state) :
    Posts client second path data := by
  intro network
  rw [same network]
  exact posts network

/-- A run that posts data from a client whose server has a URL leaves a request with these data. -/
theorem Posts.exists_attempt {α : Type} {client : Client} {run : Run Network α} {path : String}
    {data : Json} (posts : Posts client run path data) {home : Url}
    (isHome : IsHome client.serverUrl home) (network : Network) :
    ∃ attempt, (run network).state.attempts = network.attempts ++ [attempt] ∧
      attempt.request.method = .post ∧ Json.parse attempt.request.body = .ok data := by
  obtain ⟨attempts, added, -, once, each⟩ := posts network
  obtain ⟨attempt, rfl⟩ := List.length_eq_one_iff.1 (once home isHome)
  obtain ⟨request, received, carries⟩ := each attempt List.mem_cons_self
  refine ⟨attempt, added, ?_, ?_⟩
  · rw [received]
    exact carries.method
  · rw [received]
    exact carries.body

theorem Query.posts_ask (client : Client) {query : Query} {data : Json}
    (isPost : query.order.method = .post) (isBody : query.order.body? = some data)
    (whole : Whole depthLimit data) : Posts client (query.ask client) query.order.path data :=
  (client.posts_exchange isPost query.isPlainPath_order isBody whole).of_state
    fun network => (query.ask_apply client network).2

theorem Client.posts_feedback (client : Client) {body : Json} (whole : Whole depthLimit body) :
    Posts client (client.feedback body) "/feedback" body :=
  (client.posts_exchange rfl (isPlainPath_feedbackOrder client body) rfl whole).of_state
    fun network => (client.feedback_apply body network).2

/-! ## Data -/

theorem whole_searchRequest (request : SearchRequest) : Whole depthLimit request.toJson := by
  obtain ⟨context, intent, filter?⟩ := request
  have identifiers : Whole (depthLimit - 1) (Json.strings context) := whole_strings _ context
  cases filter? with
  | none =>
      have distinct : ["context", "intent"].Nodup := by decide
      refine .object (List.forall_mem_cons.2 ⟨identifiers, ?_⟩) distinct
      exact List.forall_mem_singleton.2 (.string intent)
  | some filter =>
      have distinct : ["context", "intent", "filter"].Nodup := by decide
      refine .object (List.forall_mem_cons.2 ⟨identifiers, ?_⟩) distinct
      exact List.forall_mem_cons.2 ⟨.string intent, List.forall_mem_singleton.2 (.string filter)⟩

theorem whole_filteredCategories (context : Context) (filter : String) :
    Whole depthLimit (filteredCategories context filter) := by
  have identifiers : Whole (depthLimit - 1) (Json.strings context.identifiers) :=
    whole_strings _ context.identifiers
  have distinct : ["context", "filter"].Nodup := by decide
  refine .object (List.forall_mem_cons.2 ⟨identifiers, ?_⟩) distinct
  exact List.forall_mem_singleton.2 (.string filter)

section

variable (language : Language) (num : Nat) (context : Context) {filter : String}

theorem categoriesOrder_of_filter (nonempty : filter ≠ "") :
    Client.categoriesOrder language num context (some filter) =
      .post ("/filteredNearestCategories/" ++ (language.name ++ "/" ++ toString num))
        (filteredCategories context filter) := by
  simp only [Client.categoriesOrder, Option.filter_some, nonempty, ne_eq, not_false_eq_true,
    decide_true, if_true]

theorem searchRequest_of_filter (intent : String) (nonempty : filter ≠ "") :
    SearchRequest.of context intent (some filter) =
      ⟨context.identifiers, normalizeIntent intent, some filter⟩ := by
  simp only [SearchRequest.of, Option.filter_some, nonempty, ne_eq, not_false_eq_true,
    decide_true, if_true]

end

/-! ## What a client sends -/

/-- The data that the calls of a client send, and where they send it. An empty filter makes the same
call as none. -/
structure SendsData (client : Client) (language : Language) (context : Context) : Prop where
  modules : ∀ packages, Posts client (client.modules language packages)
    ("/mapping/" ++ language.name ++ "/modulesForPackages") (Json.strings packages)
  search : ∀ intent filter, filter ≠ "" →
    Posts client (client.search language context intent (some filter))
      ("/searchByIntent/" ++ language.name)
      (.object [("context", Json.strings context.identifiers),
        ("intent", .string (normalizeIntent intent)), ("filter", .string filter)])
  searchAll : ∀ intent, Posts client (client.search language context intent none)
    ("/searchByIntent/" ++ language.name)
    (.object [("context", Json.strings context.identifiers),
      ("intent", .string (normalizeIntent intent))])
  searchEmpty : ∀ intent, client.search language context intent (some "") =
    client.search language context intent none
  categories : ∀ num filter, filter ≠ "" →
    Posts client (client.categories language num context (some filter))
      ("/filteredNearestCategories/" ++ (language.name ++ "/" ++ toString num))
      (.object [("context", Json.strings context.identifiers), ("filter", .string filter)])
  categoriesAll : ∀ num, Posts client (client.categories language num context none)
    ("/nearestCategories/" ++ (language.name ++ "/" ++ toString num))
    (Json.strings context.identifiers)
  categoriesEmpty : ∀ num, client.categories language num context (some "") =
    client.categories language num context none
  feedback : ∀ body, Whole depthLimit body → Posts client (client.feedback body) "/feedback" body

/-- Whatever texts a client is given, the service reads just these in the bodies of the requests:
writing data and reading it undo each other. -/
theorem sendsData (client : Client) (language : Language) (context : Context) :
    SendsData client language context := by
  refine ⟨?modules, ?search, ?searchAll, fun _ => rfl, ?categories, ?categoriesAll, fun _ => rfl,
    fun _ => client.posts_feedback⟩
  case modules =>
    intro packages
    exact (Query.modules language packages).posts_ask client rfl rfl (whole_strings _ packages)
  case search =>
    intro intent filter nonempty
    apply (Query.search language context intent (some filter)).posts_ask client rfl _
      (whole_searchRequest ⟨context.identifiers, normalizeIntent intent, some filter⟩)
    show some (SearchRequest.of context intent (some filter)).toJson = _
    rw [searchRequest_of_filter context intent nonempty]
  case searchAll =>
    intro intent
    exact (Query.search language context intent none).posts_ask client rfl rfl
      (whole_searchRequest ⟨context.identifiers, normalizeIntent intent, none⟩)
  case categories =>
    intro num filter nonempty
    have order := categoriesOrder_of_filter language num context nonempty
    have posts := (Query.categories language num context (some filter)).posts_ask client
      (congrArg Client.Order.method order) (congrArg Client.Order.body? order)
      (whole_filteredCategories context filter)
    rw [Query.order, order] at posts
    exact posts
  case categoriesAll =>
    intro num
    exact (Query.categories language num context none).posts_ask client rfl rfl
      (whole_strings _ context.identifiers)

/-- Quotes, controls, line separators, characters beyond sixteen bits and the least number arrive
as they are. -/
theorem sendsData_of_hard_texts :
    let client : Client := ⟨"http://127.0.0.1:8080", some "key", none, 10⟩
    let network : Network := ⟨some "127.0.0.1:8080", [], []⟩
    let filter := "\\\"\x00\u2028😀"
    let body : Json :=
      .object [("text\n", .string filter), ("number", .number (.integer (-9223372036854775808)))]
    (∃ attempt, (client.search .java .empty " Read \"It\" " (some filter) network).state.attempts =
        [attempt] ∧ attempt.request.method = .post ∧
      Json.parse attempt.request.body = .ok (.object [("context", .array []),
        ("intent", .string "read_\"it\""), ("filter", .string filter)])) ∧
    ∃ attempt, (client.feedback body network).state.attempts = [attempt] ∧
      attempt.request.method = .post ∧ Json.parse attempt.request.body = .ok body := by
  intro client network filter body
  have normal : normalizeServer client.serverUrl = .ok client.serverUrl :=
    eq_ok_of_toOption (by decide +kernel)
  obtain ⟨home, isHome⟩ := exists_isHome (hasServerForm_of_normalizeServer normal) normal
  have normalized : normalizeIntent " Read \"It\" " = "read_\"it\"" := by decide +kernel
  have whole : Whole depthLimit body := by
    have distinct : ["text\n", "number"].Nodup := by decide
    refine .object (List.forall_mem_cons.2 ⟨.string filter, ?_⟩) distinct
    exact List.forall_mem_singleton.2 (.number (by decide))
  have sends := sendsData client .java .empty
  refine ⟨?search, (sends.feedback body whole).exists_attempt isHome network⟩
  rw [← normalized]
  exact (sends.search " Read \"It\" " filter (by decide)).exists_attempt isHome network

end LibraryScout.Backend
