import LibraryScout.Proofs.Backend.Proxy
import LibraryScout.Proofs.Backend.Sequence
import LibraryScout.Proofs.Url.Percent

/-!
Contract: who a client is to the service.

Owns:
- `BearsIdentity`, the headers that say whose a request is;
- `queryOf`, the query on a request line, and that its fields are those of the order;
- that all requests of a run bear the identity of the settings, and feedback a second time in its
  query;
- the keys for which there is a client.

Whatever order is sent, its headers end with those of the client, and its fields are added to a URL
that has none. So both are settled by the order alone, before anything is said about a run.

Does not own: how fields are encoded, and proxies.
-/

namespace LibraryScout.Backend

open LibraryScout.Http LibraryScout.Settings

/-! ## Headers -/

/-- A header has a name, whatever the case in which it is written. -/
def isNamed (name written : String) : Bool :=
  written.toList.map Char.toLower = name.toList

/-- The values of the headers with a name. -/
def headerValues (name : String) (headers : List (String × String)) : List String :=
  (headers.filter fun header => isNamed name header.1).map Prod.snd

theorem headerValues_append (name : String) (first second : List (String × String)) :
    headerValues name (first ++ second) = headerValues name first ++ headerValues name second := by
  rw [headerValues, List.filter_append, List.map_append]
  rfl

/-- A request has the key of its user, if there is one, and that of the program, each once. -/
structure BearsIdentity (userKey? : Option String) (received : Received) : Prop where
  user : headerValues "user_key" received.headers = userKey?.toList
  program : headerValues "vscode_plugin_key" received.headers = [clientKey]

theorem headerValues_identity (client : Client) :
    headerValues "user_key" client.identity = client.userKey?.toList ∧
      headerValues "vscode_plugin_key" client.identity = [clientKey] := by
  have ownUser : isNamed "user_key" "user_key" = true := by decide
  have ownProgram : isNamed "vscode_plugin_key" "vscode_plugin_key" = true := by decide
  have otherUser : isNamed "user_key" "vscode_plugin_key" = false := by decide
  have otherProgram : isNamed "vscode_plugin_key" "user_key" = false := by decide
  cases keyed : client.userKey? with
  | none => simp [headerValues, Client.identity, keyed, ownProgram, otherUser]
  | some key =>
      simp [headerValues, Client.identity, keyed, ownUser, ownProgram, otherUser, otherProgram]

/-! ## Queries -/

/-- The query on a request line: what follows the first question mark, without a fragment. -/
def queryOf (target : String) : String :=
  String.ofList
    (Text.upTo '#' ((target.toList.dropWhile fun character => character ≠ '?').drop 1))

theorem queryOf_append {front : String} (noMark : '?' ∉ front.toList) (rest : String) :
    queryOf (front ++ rest) = queryOf rest := by
  have inside := Text.differs_of_not_mem noMark
  rw [queryOf, String.toList_append, List.dropWhile_append_of_pos inside, queryOf]

theorem queryOf_mark {query : String} (noFragment : '#' ∉ query.toList) :
    queryOf ("?" ++ query) = query := by
  have inside := Text.differs_of_not_mem noFragment
  have marked : ("?" ++ query).toList = '?' :: query.toList := String.toList_append
  rw [queryOf, marked, List.dropWhile_cons_of_neg (by decide), List.drop_one, List.tail_cons,
    Text.upTo, List.takeWhile_eq_self_iff.2 inside, String.ofList_toList]

theorem queryOf_target {url : Url} (plain : '?' ∉ url.path.toList)
    (noFragment : ∀ query ∈ url.query?, '#' ∉ query.toList) :
    queryOf url.target = url.query?.getD "" := by
  rw [Url.target, queryOf_append plain]
  cases asked : url.query? with
  | none => rfl
  | some query => exact queryOf_mark (noFragment query asked)

namespace Client

/-! ## One order -/

section

variable {client : Client} {order : Order} {request : Request}
  (requested : client.request order = .ok request)

include requested

/-- No other header has the name of one that says whose a request is. -/
theorem headers_of_request : ∃ first, request.headers = first ++ client.identity ∧
    headerValues "user_key" first = [] ∧ headerValues "vscode_plugin_key" first = [] := by
  unfold Client.request at requested
  cases read : Url.parse (client.urlText order) with
  | error fault =>
      rw [read] at requested
      cases requested
  | ok url =>
      rw [read] at requested
      obtain rfl := Except.ok.inj requested
      refine ⟨_, rfl, ?_⟩
      cases order.body? with
      | none => decide
      | some body =>
          dsimp only
          decide

theorem bearsIdentity_of_request (throughProxy : Bool) :
    BearsIdentity client.userKey? (request.received throughProxy) := by
  obtain ⟨first, headers, noUser, noProgram⟩ := headers_of_request requested
  obtain ⟨user, program⟩ := headerValues_identity client
  have same : (request.received throughProxy).headers = first ++ client.identity := headers
  constructor
  · rw [same, headerValues_append, noUser, user, List.nil_append]
  · rw [same, headerValues_append, noProgram, program, List.nil_append]

end

theorem fields_foldl_withField (fields : List (String × String)) (url : Url) :
    (fields.foldl (fun url (name, value) =>
      url.withField name value Url.Percent.encodeFormField) url).fields = url.fields ++ fields := by
  induction fields generalizing url with
  | nil => exact (List.append_nil _).symm
  | cons field later inductionHypothesis =>
      rw [List.foldl_cons, inductionHypothesis, Url.fields_withField, List.append_assoc]
      rfl

theorem not_mem_query?_foldl {mark : Char} (separates : mark ∈ "?#".toList)
    (fields : List (String × String)) {url : Url}
    (absent : ∀ query ∈ url.query?, mark ∉ query.toList) :
    ∀ query ∈ (fields.foldl (fun url (name, value) =>
      url.withField name value Url.Percent.encodeFormField) url).query?, mark ∉ query.toList := by
  induction fields generalizing url with
  | nil => exact absent
  | cons field later inductionHypothesis =>
      exact inductionHypothesis (Url.not_mem_query?_withField separates absent field.1 field.2)

/-- The fields of an order are those of the URL to which it goes. -/
theorem Order.fields_url (order : Order) (home : Url) : (order.url home).fields = order.query :=
  fields_foldl_withField order.query _

section

variable {client : Client} {home : Url} (isHome : IsHome client.serverUrl home) {order : Order}

include isHome

/-- Nothing that stands before the path of a server's URL is taken for its query. -/
theorem queryOf_text {url : Url} (scheme : url.scheme = home.scheme) (host : url.host? = home.host?)
    (noUser : url.userInfoText = "") :
    queryOf { url with fragment? := none }.text = queryOf url.target := by
  obtain ⟨_, hostRead, named, hosted⟩ := Url.webHost_of_parse isHome.read isHome.http.isWeb
  have isHost := Url.isHostText_of_webHost named
  have inScheme : '?' ∉ url.scheme.toList := by
    rw [scheme]
    rcases isHome.http with http | https
    · rw [http]; decide
    · rw [https]; decide
  have inHost : '?' ∉ hostRead.text.toList := fun member =>
    absurd (isHost.isHostCharacter '?' member) (by decide)
  have inPort : '?' ∉ url.portText.toList := by
    unfold Url.portText
    cases url.port? with
    | none => decide
    | some port =>
        have noDigit : '?' ∉ (toString port).toList := fun member =>
          absurd ((isServer_written isHome.http isHost port).allDigits '?' member) (by decide)
        rw [String.toList_append, List.mem_append, not_or]
        exact ⟨by decide, noDigit⟩
  have written : { url with fragment? := none }.text =
      (url.scheme ++ ":" ++ "//" ++ hostRead.text ++ url.portText) ++ url.target := by
    have hostedHere : ({ url with fragment? := none } : Url).host? = some hostRead :=
      host.trans hosted
    unfold Url.text
    rw [hostedHere]
    change url.scheme ++ ":" ++ ("//" ++ url.userInfoText ++ hostRead.text ++ url.portText) ++
      url.target ++ "" = _
    rw [noUser]
    simp only [String.append_assoc, String.append_empty]
  rw [written]
  refine queryOf_append ?_ _
  simp [inScheme, inHost, inPort]

/-- The fields of an order arrive as they are, whether its request goes through a proxy or not. -/
theorem queryOf_received (isPath : Url.IsPlainPath order.path.toList) {request : Request}
    (requested : client.request order = .ok request) (throughProxy : Bool) :
    Url.Form.fields (queryOf (request.received throughProxy).target) = order.query := by
  obtain ⟨made, again, -, sent⟩ := request_of_isHome isHome isPath
  obtain rfl := Except.ok.inj (requested.symm.trans again)
  have same := order.samePlace_url home
  have plain : '?' ∉ (order.url home).path.toList := by
    rw [same.path]
    exact fun member => absurd (isPath.plain '?' member) (by decide)
  have noFragment : ∀ query ∈ (order.url home).query?, '#' ∉ query.toList :=
    not_mem_query?_foldl (by decide) order.query nofun
  have noUser : (order.url home).userInfoText = "" := by
    rw [Order.url, foldl_withField_eq]
    rfl
  have target : queryOf (request.received throughProxy).target =
      queryOf (order.url home).target := by
    rw [Request.received, sent]
    cases throughProxy with
    | true => exact queryOf_text isHome same.scheme same.host? noUser
    | false => rfl
  rw [target, queryOf_target plain noFragment]
  exact order.fields_url home

end

/-! ## Runs -/

/-- What is sent for an order is its request as it is received. -/
theorem request_of_attempt? {client : Client} {order : Order} {reply? : Option Reply}
    {attempt : Attempt} (made : client.attempt? order reply? = some attempt) :
    ∃ request throughProxy, client.request order = .ok request ∧
      attempt.request = request.received throughProxy := by
  obtain ⟨request, requested, rfl⟩ := Option.map_eq_some_iff.1 made
  exact ⟨request, _, eq_ok_of_toOption requested, rfl⟩

theorem exists_attempt?_of_mem {client : Client} {orders : List Order} {script : List Reply}
    {sent : List Attempt} (requested : sent.map some = client.attempts orders script)
    {attempt : Attempt} (member : attempt ∈ sent) :
    ∃ order reply?, client.attempt? order reply? = some attempt := by
  have listed : some attempt ∈ client.attempts orders script := by
    rw [← requested]
    exact List.mem_map_of_mem member
  obtain ⟨place, _, made⟩ := List.mem_mapIdx.1 listed
  exact ⟨_, _, made⟩

/-- A run sends every order with one identity, and feedback with the key in its query too. -/
structure Identified (userKey? : Option String) (client : Client) (steps : List Step)
    (network : Network) (sent : List Attempt) : Prop where
  attempts : (client.carryOut steps network).state.attempts = network.attempts ++ sent
  length : sent.length = (client.orders steps).length
  identity : ∀ attempt ∈ sent, BearsIdentity userKey? attempt.request
  feedback : ∀ (position : Nat) body, steps[position]? = some (.feedback body) →
    ∃ attempt, sent[client.place steps position]? = some attempt ∧
      Url.Form.fields (queryOf attempt.request.target) = [("userKey", userKey?.getD "")]

theorem exists_identified {client : Client} {home : Url} (isHome : IsHome client.serverUrl home)
    (steps : List Step) (network : Network) :
    ∃ sent, Identified client.userKey? client steps network sent := by
  obtain ⟨⟨sent, added, requested⟩, -⟩ := carryOut_state isHome steps network
  have length : sent.length = (client.orders steps).length := by
    have same := congrArg List.length requested
    rwa [List.length_map, Client.attempts, List.length_mapIdx] at same
  refine ⟨sent, added, length, fun attempt member => ?identity, fun position body here => ?feedback⟩
  case identity =>
    obtain ⟨order, reply?, made⟩ := exists_attempt?_of_mem requested member
    obtain ⟨request, throughProxy, made, received⟩ := request_of_attempt? made
    rw [received]
    exact bearsIdentity_of_request made throughProxy
  case feedback =>
    have isPath := isPlainPath_feedbackOrder client body
    have found := getElem?_place_of_attempts requested here rfl
    obtain ⟨request, made, -, -⟩ := request_of_isHome isHome isPath
    rw [attempt?, made] at found
    exact ⟨_, found, queryOf_received isHome isPath made _⟩

/-! ## Keys -/

/-- A text holds a control other than a tab. -/
def HoldsControl (text : String) : Prop :=
  ∃ character ∈ text.toList,
    character.toNat = 0x7F ∨ character.toNat < 0x20 ∧ character ≠ '\t'

theorem isHeaderText_iff {text : String} : isHeaderText text = true ↔ ¬ HoldsControl text := by
  unfold isHeaderText HoldsControl
  rw [List.all_eq_true, not_exists]
  refine forall_congr' fun character => ?_
  rw [not_and]
  refine imp_congr_right fun _ => ?_
  simp only [Bool.or_eq_true, Bool.and_eq_true, decide_eq_true_eq]
  by_cases tab : character = '\t'
  · subst tab
    decide
  · simp only [tab, ne_eq, not_false_eq_true, and_true, false_or]
    omega

theorem ofConfiguration_of_holdsControl {configuration : Configuration} {key : String}
    (keyed : configuration.userKey? = some key) (holds : HoldsControl key) :
    ofConfiguration configuration = .error (headerFault key) := by
  have unusable : isHeaderText key = false :=
    Bool.eq_false_iff.2 fun usable => isHeaderText_iff.1 usable holds
  have refused : configuration.userKey?.filter (fun key => !isHeaderText key) = some key := by
    rw [keyed, Option.filter_some, unusable]
    rfl
  unfold ofConfiguration
  rw [refused]

/-- Without a proxy the key alone decides whether there is a client. -/
structure DecidedByKey (configuration : Configuration) : Prop where
  refused : ∀ key ∈ configuration.userKey?, HoldsControl key →
    ofConfiguration configuration = .error
      (.configuration ("Invalid header value '" ++ key ++ "': failed to parse header value"))
  built : (∀ key ∈ configuration.userKey?, ¬ HoldsControl key) →
    ∃ client, ofConfiguration configuration = .ok client

theorem decidedByKey {configuration : Configuration} (direct : configuration.proxy? = none) :
    DecidedByKey configuration := by
  refine ⟨fun key => ofConfiguration_of_holdsControl, fun free => ?_⟩
  have usable : ∀ key ∈ configuration.userKey?, isHeaderText key = true :=
    fun key keyed => isHeaderText_iff.2 (free key keyed)
  rcases ofConfiguration_of_usableKey usable with ⟨built, -⟩ | ⟨text, proxied, -⟩
  · exact built
  · rw [direct] at proxied
    cases proxied

/-! ## The identity of settings -/

/-- A client for a server in normal form sends every request with the identity of its settings, and
feedback with the same key, or an empty one, as the one field of its query. Without a proxy there is
such a client unless the key holds a control other than a tab. -/
theorem requests_bear_identity (configuration : Configuration) :
    (normalizeServer configuration.serverUrl = .ok configuration.serverUrl →
      ∀ client, ofConfiguration configuration = .ok client → ∀ steps network,
        ∃ sent, Identified configuration.userKey? client steps network sent) ∧
      (configuration.proxy? = none → DecidedByKey configuration) := by
  refine ⟨fun normal client built steps network => ?_, decidedByKey⟩
  obtain ⟨home, isHome⟩ :=
    exists_isHome_of_ofConfiguration (hasServerForm_of_normalizeServer normal) normal built
  obtain ⟨-, userKey?, -⟩ := fields_of_ofConfiguration built
  rw [← userKey?]
  exact exists_identified isHome steps network

/-- A key of separators, blanks and characters beyond ASCII is sent with a query and with feedback,
through a proxy too; with a line break there is no client. -/
theorem requests_bear_identity_of_separators :
    let key := "a&b=c+%2B ?#é"
    let configuration : Configuration :=
      ⟨"http://127.0.0.1:8080", some "http://127.0.0.1:3128", some key, 10, "info"⟩
    let refused : Configuration := ⟨"http://127.0.0.1:8080", none, some "a\nb", 10, "info"⟩
    let steps : List Step := [.query (.intents .java), .feedback .null]
    (∃ client sent, ofConfiguration configuration = .ok client ∧ sent.length = 2 ∧
      (client.carryOut steps .unreachable).state.attempts = sent ∧
      (∀ attempt ∈ sent, headerValues "user_key" attempt.request.headers = [key]) ∧
      ∃ attempt, sent[1]? = some attempt ∧
        Url.Form.fields (queryOf attempt.request.target) = [("userKey", key)]) ∧
    ofConfiguration refused = .error
      (.configuration "Invalid header value 'a\nb': failed to parse header value") := by
  intro key configuration refused steps
  let proxy : Url := ⟨"http", "", none, some (.ipv4 2130706433), some 3128, "/", none, none⟩
  let client : Client := ⟨"http://127.0.0.1:8080", some key, some proxy, 10⟩
  have normal : normalizeServer configuration.serverUrl = .ok configuration.serverUrl :=
    eq_ok_of_toOption (by decide +kernel)
  have built : ofConfiguration configuration = .ok client :=
    eq_ok_of_toOption (by decide +kernel)
  obtain ⟨sent, identified⟩ :=
    (requests_bear_identity configuration).1 normal client built steps .unreachable
  have holds : HoldsControl "a\nb" := ⟨'\n', by decide, .inr (by decide)⟩
  refine ⟨⟨client, sent, built, identified.length, identified.attempts, ?_, ?_⟩, ?_⟩
  · exact fun attempt member => (identified.identity attempt member).user
  · exact identified.feedback 1 .null rfl
  · exact ((requests_bear_identity refused).2 rfl).refused "a\nb" rfl holds

end Client

end LibraryScout.Backend
