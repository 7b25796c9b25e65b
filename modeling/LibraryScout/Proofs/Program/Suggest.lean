import LibraryScout.Proofs.Backend.Chain
import LibraryScout.Proofs.Program.Service

/-!
Contract: the queries of a command for suggestions.

Owns:
- the queries in their order: modules for the packages of a Java source, the search, the snippets;
- the run of the command, step by step, with what it asks for and how it ends;
- the account of a whole run: which queries are made, how the run ends, and that snippets which
  cannot be had are as good as none.

Does not own: how replies settle queries.
-/

namespace LibraryScout.Program

open LibraryScout.Assembly LibraryScout.Backend LibraryScout.CommandLine LibraryScout.Http
open LibraryScout.Settings LibraryScout.Source

/-! ## The queries of a command -/

/-- The query for the modules of a Java source with packages. -/
def mapping (document : Document) : List Query :=
  let packages := (Imports.Java.extract document.text).1.context.identifiers
  if document.kind = .java ∧ packages ≠ [] then [.modules .java packages] else []

theorem language_extract (text : String) : (Imports.Java.extract text).1.language = .java := by
  unfold Imports.Java.extract
  dsimp only
  split <;> rfl

theorem request?_defaults (document : Document) :
    let packages := (Imports.Java.extract document.text).1.context.identifiers
    request? .defaults document =
      if document.kind = .java ∧ packages ≠ [] then some ⟨.java, packages⟩ else none := by
  intro packages
  by_cases needs : document.kind = .java ∧ packages ≠ []
  · have found : Registry.defaults.get? document.kind = some Extractor.java := by
      rw [needs.1]
      rfl
    have call : Call.ofExtraction (Imports.Java.extract document.text).1 = ⟨.java, packages⟩ := by
      rw [Call.ofExtraction, language_extract]
    rw [if_pos needs, request?, found]
    exact (if_pos needs).trans (congrArg some call)
  · rw [if_neg needs]
    exact request?_eq_none needs

theorem order_mapping (document : Document) :
    (mapping document).map Query.order =
      ((request? .defaults document).map Step.callOrder).toList := by
  rw [request?_defaults, mapping]
  split <;> rfl

theorem mapping_eq_nil {document : Document} (silent : request? .defaults document = none) :
    mapping document = [] := by
  have none := order_mapping document
  rw [silent] at none
  exact List.map_eq_nil_iff.1 none

theorem mapping_eq_modules {document : Document} {call : Call}
    (asks : request? .defaults document = some call) :
    mapping document = [.modules call.language call.packages] := by
  rw [request?_defaults] at asks
  obtain ⟨needs, rfl⟩ := Option.ite_none_right_eq_some.1 asks |>.imp_right Option.some.inj
  exact if_pos needs

section

variable (client : Client) (intent : String) (filter? : Option String) (format : Report.Format)

def searching (extraction : Extraction) : Query :=
  .search extraction.language extraction.context intent filter?

/-- The queries of a command, in their order, once the context of its document is known. -/
def sequence (document : Document) (context : Except Failure Outcome) : List Query :=
  mapping document ++
    match context with
    | .ok (.extracted extraction) =>
        [searching intent filter? extraction, .snippets extraction.language]
    | _ => []

theorem sequence_extracted (document : Document) (extraction : Extraction) :
    sequence intent filter? document (.ok (.extracted extraction)) =
      mapping document ++
        [searching intent filter? extraction, .snippets extraction.language] := rfl

/-- The context of a document when the call that it makes gets the first reply of a script. -/
def contextWith (document : Document) (script : List Reply) : Except Failure Outcome :=
  outcomeWith .defaults document
    (answerWith client (request? .defaults document) script.head?)

/-- The search waits for the modules, if there are any to ask for. -/
theorem made_sequence (document : Document) (script : List Reply) :
    made client (sequence intent filter? document (contextWith client document script)) script =
      mapping document ++
        match contextWith client document script with
        | .ok (.extracted extraction) =>
            made client [searching intent filter? extraction, .snippets extraction.language]
              (script.drop (mapping document).length)
        | _ => [] := by
  unfold sequence
  cases asks : request? .defaults document with
  | none =>
      rw [mapping_eq_nil asks]
      split <;> rfl
  | some call =>
      rw [mapping_eq_modules asks]
      have answer : contextWith client document script = outcomeWith .defaults document
          ((Query.modules call.language call.packages).valueWith client script.head?) := by
        rw [contextWith, asks]
        rfl
      cases settled : (Query.modules call.language call.packages).valueWith client script.head? with
      | ok modules =>
          obtain ⟨extraction, extracted⟩ := exists_outcomeWith_ok asks modules
          rw [settled, extracted] at answer
          rw [answer, List.singleton_append, made_of_ok client settled, List.length_singleton,
            List.drop_one]
          rfl
      | error error =>
          rw [settled, outcomeWith_error asks] at answer
          rw [answer, List.append_nil, made_of_error client settled]

/-! ## The run of a command -/

/-- A response with the snippets that were found, or as it is where there are none. -/
def enriched (found : SearchResponse) : Except Error Snippets → SearchResponse
  | .ok snippets => found.attachSnippets snippets
  | .error _ => found

def reported (extraction : Extraction) (response : SearchResponse) : Ending :=
  .done (some (Report.suggestions format
    ⟨extraction.language, intent, extraction.context.identifiers, response,
      SuggestionIndex.ofResponse response⟩))

/-- How a command ends once it has a context. -/
def searchEnding (extraction : Extraction) (script : List Reply) : Ending :=
  match (searching intent filter? extraction).valueWith client script.head? with
  | .error _ => .failed
  | .ok found => reported intent format extraction
      (enriched found ((Query.snippets extraction.language).valueWith client script.tail.head?))

/-- The context of a file's document, or how a command ends without one. -/
def contextOrEnding (context : Except Failure Outcome) : Except Ending Extraction :=
  match context with
  | .ok (.extracted extraction) => .ok extraction
  | .ok outcome => .error (endingOf format outcome)
  | .error _ => .error .failed

end

section

variable {client : Client} {home : Url} (isHome : IsHome client.serverUrl home) (world : World)

include isHome

theorem Asks.contextOfFile {document : Document} {path : String}
    (found : document? world.files path = some document) (format : Report.Format) :
    Asks client (Program.contextOfFile client path format) world
      ((mapping document).map Query.order)
      (contextOrEnding format (contextWith client document (client.script world.network))) := by
  obtain ⟨value, state⟩ := readDocument_apply path world
  have read : Asks client (readDocument path) world [] (some document) :=
    .nothing (value.trans found) (congrArg World.network state)
  rw [order_mapping]
  refine read.nothing_bind ?_
  rw [state]
  refine (Asks.context isHome document world).bind_nothing ?_
  rw [← contextWith]
  generalize contextWith client document (client.script world.network) = context
  rcases context with failure | (extraction | fileName | _)
  · exact .nothing rfl rfl
  · exact .pure _
  · exact .pure _
  · exact .pure _

theorem Asks.withSnippets (language : Language) (found : SearchResponse) :
    Asks client (Program.withSnippets client language found) world
      [(Query.snippets language).order]
      (enriched found
        ((Query.snippets language).valueWith client (client.script world.network).head?)) := by
  refine (Asks.query isHome (.snippets language) world).bind_nothing ?_
  generalize (Query.snippets language).valueWith client (client.script world.network).head? = answer
  cases answer with
  | ok snippets => exact .pure _
  | error error => exact .nothing rfl rfl

/-- With a context the search is made, and after it the snippets are asked for. -/
theorem Asks.search {path : String} {extraction : Extraction} {format : Report.Format}
    {orders : List Client.Order} (intent : String) (filter? : Option String)
    (extracted : Asks client (Program.contextOfFile client path format) world orders
      (.ok extraction)) :
    let script := (client.script world.network).drop orders.length
    Asks client (suggest path intent filter? format client) world
      (orders ++ (made client [searching intent filter? extraction,
        .snippets extraction.language] script).map Query.order)
      (searchEnding client intent filter? format extraction script) := by
  intro script
  have left := extracted.script
  generalize after : (Program.contextOfFile client path format world).state = state at left
  refine extracted.bind ?_
  rw [after]
  have announced : Asks client (Run.report (searchEvent intent)) state [] () := .nothing rfl rfl
  have searched := Asks.query isHome (searching intent filter? extraction) state
  have rest := searched.script
  rw [left] at searched rest
  generalize asked : (World.withNetwork ((searching intent filter? extraction).ask client)
    state).state = later at rest
  refine announced.nothing_bind ?_
  unfold searchEnding
  cases settled : (searching intent filter? extraction).valueWith client script.head? with
  | error error =>
      rw [settled] at searched
      rw [made_of_error client settled]
      exact searched.bind_nothing (.nothing rfl rfl)
  | ok found =>
      rw [settled] at searched
      rw [made_of_ok client settled, made_singleton]
      have enrichedBy := Asks.withSnippets isHome later extraction.language found
      rw [rest, List.length_singleton, List.drop_one, ← asked] at enrichedBy
      exact searched.bind (enrichedBy.bind_nothing (.pure _))

end

/-! ## The account -/

section

variable (client : Client) (intent : String) (filter? : Option String) (format : Report.Format)

/-- How a command for suggestions ends, with a document and the replies of a script. -/
def suggestEnding (document : Document) (script : List Reply) : Ending :=
  match contextWith client document script with
  | .ok (.extracted extraction) =>
      searchEnding client intent filter? format extraction
        (script.drop (mapping document).length)
  | .ok outcome => endingOf format outcome
  | .error _ => .failed

theorem searchEnding_exitCode (extraction : Extraction) (left : List Reply) :
    let ending := searchEnding client intent filter? format extraction left
    (ending.exitCode = 0 ↔ Succeeds client (searching intent filter? extraction) left.head?) ∧
      ending.exitCode ≠ 2 := by
  unfold searchEnding Succeeds
  cases (searching intent filter? extraction).valueWith client left.head? with
  | ok found => exact ⟨⟨fun _ => ⟨found, rfl⟩, fun _ => rfl⟩, Nat.zero_ne_add_one 1⟩
  | error error =>
      refine ⟨⟨fun zero => ?_, fun ⟨_, same⟩ => ?_⟩, fun two => ?_⟩
      · cases zero
      · cases same
      · cases two

variable {client} {document : Document} {script : List Reply}

/-- A document with an extraction has all the modules that it asked for. -/
theorem mapping_succeeds {extraction : Extraction}
    (extracted : contextWith client document script = .ok (.extracted extraction)) :
    FirstSucceed client (mapping document) script (mapping document).length := by
  cases asks : request? .defaults document with
  | none =>
      rw [mapping_eq_nil asks]
      exact fun place fewer => absurd fewer (Nat.not_lt_zero place)
  | some call =>
      rw [mapping_eq_modules asks]
      refine (firstSucceed_cons client _ [] script 0).2
        ⟨?_, fun place fewer => absurd fewer (Nat.not_lt_zero place)⟩
      rw [contextWith, asks, answerWith] at extracted
      cases settled : (Query.modules call.language call.packages).valueWith client script.head? with
      | ok modules => exact ⟨modules, settled⟩
      | error error =>
          rw [settled, outcomeWith_error asks] at extracted
          cases extracted

/-- All queries up to the search succeed if and only if the search does, once there is an
extraction. -/
theorem firstSucceed_sequence {extraction : Extraction}
    (extracted : contextWith client document script = .ok (.extracted extraction)) :
    FirstSucceed client (sequence intent filter? document (contextWith client document script))
        script ((mapping document).length + 1) ↔
      Succeeds client (searching intent filter? extraction)
        (script.drop (mapping document).length).head? := by
  rw [extracted, sequence_extracted, firstSucceed_append, firstSucceed_cons]
  refine ⟨fun both => both.2.1, fun succeeds => ⟨mapping_succeeds extracted, succeeds, ?_⟩⟩
  exact fun place fewer => absurd fewer (Nat.not_lt_zero place)

theorem suggestEnding_exitCode_zero :
    (suggestEnding client intent filter? format document script).exitCode = 0 ↔
      ∃ extraction, contextWith client document script = .ok (.extracted extraction) ∧
        FirstSucceed client
          (sequence intent filter? document (contextWith client document script)) script
          ((mapping document).length + 1) := by
  unfold suggestEnding
  cases outcome : contextWith client document script with
  | error failure =>
      refine ⟨fun zero => ?_, fun ⟨_, same, _⟩ => ?_⟩
      · cases zero
      · cases same
  | ok held =>
      cases held with
      | extracted extraction =>
          have succeeded := firstSucceed_sequence intent filter? outcome
          rw [outcome] at succeeded
          have zero := (searchEnding_exitCode client intent filter? format extraction
            (script.drop (mapping document).length)).1
          refine ⟨fun isZero => ⟨extraction, rfl, succeeded.2 (zero.1 isZero)⟩, ?_⟩
          intro ⟨other, same, firstSucceed⟩
          exact zero.2 (succeeded.1 firstSucceed)
      | unsupported fileName =>
          refine ⟨fun zero => ?_, fun ⟨_, same, _⟩ => ?_⟩
          · cases zero
          · cases same
      | noDocument =>
          refine ⟨fun zero => ?_, fun ⟨_, same, _⟩ => ?_⟩
          · cases zero
          · cases same

theorem suggestEnding_exitCode_two :
    (suggestEnding client intent filter? format document script).exitCode = 2 ↔
      document.kind.isSupported = false := by
  unfold suggestEnding
  cases supported : document.kind.isSupported with
  | false =>
      rw [contextWith, outcomeWith_of_unsupported supported]
      exact ⟨fun _ => rfl, fun _ => rfl⟩
  | true =>
      refine ⟨fun two => ?_, fun same => by cases same⟩
      rcases outcomeWith_of_supported supported
        (answerWith client (request? .defaults document) script.head?) with
        ⟨failure, failed⟩ | ⟨extraction, extracted⟩
      · rw [contextWith, failed] at two
        cases two
      · rw [contextWith, extracted] at two
        exact absurd two (searchEnding_exitCode client intent filter? format extraction _).2

/-- An unsupported document asks for nothing. -/
theorem sequence_of_unsupported (unsupported : document.kind.isSupported = false)
    (answer : Answer) :
    sequence intent filter? document (outcomeWith .defaults document answer) = [] := by
  have notJava : ¬ NeedsModules document := by
    intro needs
    rw [needs.1] at unsupported
    cases unsupported
  rw [outcomeWith_of_unsupported unsupported]
  exact (List.append_nil _).trans (mapping_eq_nil (request?_eq_none notJava))

/-! ## Snippets that cannot be had -/

theorem attachSnippets_nil (response : SearchResponse) : response.attachSnippets [] = response :=
  congrArg (SearchResponse.mk · response.raw) (List.map_id response.filtered)

/-- A reply that answers with an empty object. -/
def AnswersEmpty (reply : Reply) : Prop :=
  ∃ status, Delivers reply status "\x7b\x7d" ∧ 200 ≤ status ∧ status ≤ 299

theorem decode_empty : Json.decode Json.Decoder.map "\x7b\x7d" = .ok [] := by
  with_unfolding_all rfl

/-- An empty object is an answer without snippets. -/
theorem valueWith_of_answersEmpty {home : Url} (isHome : IsHome client.serverUrl home)
    (language : Language) {reply : Reply} (empty : AnswersEmpty reply) :
    (Query.snippets language).valueWith client (some reply) = .ok [] := by
  obtain ⟨status, ⟨response, rfl, rfl, delivered⟩, least, most⟩ := empty
  have final : IsFinal (.answer response) := ⟨least, Nat.lt_of_le_of_lt most (by decide)⟩
  obtain ⟨request, requested, _, _⟩ :=
    Client.request_of_isHome isHome (Query.snippets language).isPlainPath_order
  have settled := client.judge_settled (Query.snippets language).order
    (Query.snippets language).decoder request.url final
  rw [Query.valueWith, Client.outcome, requested]
  exact (settled.ok []).2
    ⟨response.status, _, ⟨response, rfl, rfl, delivered⟩, ⟨least, most⟩, decode_empty⟩

/-- The same replies, but for one at a place. -/
def replaced (replies : List Reply) (place : Nat) (reply : Reply) : List Reply :=
  replies.take place ++ reply :: replies.drop (place + 1)

theorem getElem?_replaced_of_lt {replies : List Reply} {place other : Nat} (reply : Reply)
    (before : other < place) (within : place ≤ replies.length) :
    (replaced replies place reply)[other]? = replies[other]? := by
  have short : other < (replies.take place).length := by
    rw [List.length_take]
    omega
  rw [replaced, List.getElem?_append_left short, List.getElem?_take_of_lt before]

theorem getElem?_replaced_self {replies : List Reply} {place : Nat} (reply : Reply)
    (within : place ≤ replies.length) : (replaced replies place reply)[place]? = some reply := by
  have length : (replies.take place).length = place := by
    rw [List.length_take]
    omega
  rw [replaced, List.getElem?_append_right (Nat.le_of_eq length), length, Nat.sub_self]
  rfl

theorem searchEnding_congr {extraction : Extraction} {first second : List Reply}
    (sameSearch : first.head? = second.head?)
    (sameResponse : ∀ found,
      enriched found ((Query.snippets extraction.language).valueWith client first.tail.head?) =
      enriched found ((Query.snippets extraction.language).valueWith client second.tail.head?)) :
    searchEnding client intent filter? format extraction first =
      searchEnding client intent filter? format extraction second := by
  unfold searchEnding
  rw [sameSearch]
  cases (searching intent filter? extraction).valueWith client second.head? with
  | error error => rfl
  | ok found => exact congrArg (reported intent format extraction) (sameResponse found)

/-- A command ends with an empty answer for snippets as it does without snippets. -/
theorem suggestEnding_replaced {home : Url} (isHome : IsHome client.serverUrl home)
    {extraction : Extraction}
    (extracted : contextWith client document script = .ok (.extracted extraction))
    (failed : ¬ Succeeds client (.snippets extraction.language)
      script[(mapping document).length + 1]?)
    (within : (mapping document).length + 1 ≤ script.length) {empty : Reply}
    (isEmpty : AnswersEmpty empty) :
    suggestEnding client intent filter? format document
        (replaced script ((mapping document).length + 1) empty) =
      suggestEnding client intent filter? format document script := by
  generalize known : replaced script ((mapping document).length + 1) empty = other
  have earlier : ∀ place ≤ (mapping document).length, other[place]? = script[place]? := by
    intro place before
    rw [← known]
    exact getElem?_replaced_of_lt empty (Nat.lt_succ_of_le before) within
  have sameContext : contextWith client document other = contextWith client document script := by
    rw [contextWith, contextWith, List.head?_eq_getElem?, List.head?_eq_getElem?,
      earlier 0 (Nat.zero_le _)]
  have sameSearch : (other.drop (mapping document).length).head? =
      (script.drop (mapping document).length).head? := by
    rw [List.head?_drop, List.head?_drop, earlier _ (Nat.le_refl _)]
  have answered : (other.drop (mapping document).length).tail.head? = some empty := by
    rw [List.tail_drop, List.head?_drop, ← known]
    exact getElem?_replaced_self empty within
  have lost : ∃ error, (Query.snippets extraction.language).valueWith client
      (script.drop (mapping document).length).tail.head? = .error error := by
    rw [List.tail_drop, List.head?_drop]
    cases settled : (Query.snippets extraction.language).valueWith client
        script[(mapping document).length + 1]? with
    | ok snippets => exact absurd ⟨snippets, settled⟩ failed
    | error error => exact ⟨error, rfl⟩
  obtain ⟨error, lost⟩ := lost
  have sameResponse : ∀ found,
      enriched found ((Query.snippets extraction.language).valueWith client
        (other.drop (mapping document).length).tail.head?) =
      enriched found ((Query.snippets extraction.language).valueWith client
        (script.drop (mapping document).length).tail.head?) := by
    intro found
    rw [answered, lost, valueWith_of_answersEmpty isHome extraction.language isEmpty]
    exact attachSnippets_nil found
  unfold suggestEnding
  rw [sameContext, extracted]
  exact searchEnding_congr intent filter? format sameSearch sameResponse

end

section

variable {client : Client} {options : BackendOptions} {world : World}
  (connected : (connect options world).value = .ok client)

include connected

theorem asks_connect :
    Asks client (connect options) world [] (.ok client) :=
  .nothing connected (connect_network options world)

variable {invocation : Invocation} {file intent : String} {filter? : Option String}
  {format : Report.Format}
  (isSuggest : invocation.command = .suggest file intent filter? format options)

include isSuggest

/-- A file that cannot be read ends the command before anything is asked for. -/
theorem asks_suggest_unreadable
    (unreadable : document? (connect options world).state.files file = none) :
    Asks client (execute invocation) world [] .failed := by
  have started : Asks client (Run.report startEvent) world [] () := .nothing rfl rfl
  refine started.nothing_bind ?_
  rw [isSuggest]
  refine (asks_connect connected).nothing_bind ?_
  obtain ⟨value, state⟩ := readDocument_apply file (connect options world).state
  have read : Asks client (readDocument file) (connect options world).state [] none :=
    .nothing (value.trans unreadable) (congrArg World.network state)
  have context : Asks client (contextOfFile client file format) (connect options world).state []
      (.error .failed) := read.nothing_bind (.pure _)
  exact context.nothing_bind (.pure _)

theorem asks_suggest {document : Document}
    (found : document? (connect options world).state.files file = some document) :
    let script := client.script world.network
    Asks client (execute invocation) world
      ((made client (sequence intent filter? document (contextWith client document script))
        script).map Query.order)
      (suggestEnding client intent filter? format document script) := by
  intro script
  obtain ⟨home, isHome⟩ := isHome_of_connect connected
  have started : Asks client (Run.report startEvent) world [] () := .nothing rfl rfl
  refine started.nothing_bind ?_
  rw [isSuggest]
  refine (asks_connect connected).nothing_bind ?_
  have context := Asks.contextOfFile isHome (connect options world).state found format
  have sameScript : client.script (connect options world).state.network = script := by
    rw [connect_network]
  rw [sameScript] at context
  rw [made_sequence]
  unfold suggestEnding
  cases outcome : contextWith client document script with
  | error failure =>
      rw [outcome] at context
      rw [List.append_nil]
      exact context.bind_nothing (.pure _)
  | ok held =>
      rw [outcome] at context
      cases held with
      | extracted extraction =>
          have searched := Asks.search isHome (connect options world).state intent filter? context
          rw [sameScript, List.length_map] at searched
          rw [List.map_append]
          exact searched
      | unsupported fileName =>
          rw [List.append_nil]
          exact context.bind_nothing (.pure _)
      | noDocument =>
          rw [List.append_nil]
          exact context.bind_nothing (.pure _)

/-- The same with any other network. -/
theorem suggest_withNetwork {document : Document}
    (found : document? (connect options world).state.files file = some document)
    (network : Network) :
    (execute invocation { world with network }).value =
      suggestEnding client intent filter? format document (client.script network) := by
  have same := connect_withNetwork options world network
  have connectedAgain : (connect options { world with network }).value = .ok client := by
    rw [same]
    exact connected
  have foundAgain : document? (connect options { world with network }).state.files file =
      some document := by
    rw [same]
    exact found
  exact (asks_suggest connectedAgain isSuggest foundAgain).value

end

/-- The account of a command for suggestions. The document is that of the file, if it can be read,
and `context` is what extracting the context of a document comes to. -/
structure SuggestAccount (client : Client) (intent : String) (filter? : Option String)
    (document? : Option Document) (context : Document → Except Failure Outcome)
    (network : Network) (run : Network → Ran World Ending) : Prop where
  /-- The queries that are made are the first ones of the sequence. One is made if and only if all
  before it succeed, and each is sent once. -/
  requests : ∃ queries sent,
    (run network).state.network.attempts = network.attempts ++ sent ∧
    sent.map some = client.attempts (queries.map Query.order) (client.script network) ∧
    (document? = none → queries = []) ∧
    ∀ document ∈ document?,
      let planned := sequence intent filter? document (context document)
      queries <+: planned ∧
        ∀ place, place < queries.length ↔
          place < planned.length ∧ FirstSucceed client planned (client.script network) place
  /-- Every query of the sequence is a request by its own method to its own path. -/
  forms : ∀ document ∈ document?, ∀ query ∈ sequence intent filter? document (context document),
    ∃ request, client.request query.order = .ok request ∧
      request.method = query.order.method ∧ request.url.path = query.order.path ∧
      request.body = (query.order.body?.map Json.compact).getD ""
  /-- The search asks about the very context that was extracted. -/
  search : ∀ document ∈ document?, ∀ extraction, context document = .ok (.extracted extraction) →
    ∃ body, (searching intent filter? extraction).order =
        .post ("/searchByIntent/" ++ extraction.language.name) body ∧
      body.member? "context" = some (Json.strings extraction.context.identifiers)
  /-- The command is carried out when the modules, if there are any to ask for, and the search
  are answered. -/
  done : (run network).value.exitCode = 0 ↔
    ∃ document ∈ document?, ∃ extraction, context document = .ok (.extracted extraction) ∧
      FirstSucceed client (sequence intent filter? document (context document))
        (client.script network) ((mapping document).length + 1)
  /-- A file that can be read but is of no supported kind has an exit code of its own. -/
  unsupported : (run network).value.exitCode = 2 ↔
    ∃ document ∈ document?, document.kind.isSupported = false
  /-- For such a file nothing is asked. -/
  untouched : (run network).value.exitCode = 2 →
    (run network).state.network.attempts = network.attempts
  /-- Snippets that are asked for and cannot be had are as good as none. -/
  snippets : ∀ document ∈ document?, ∀ extraction,
    context document = .ok (.extracted extraction) →
    let place := (mapping document).length + 1
    FirstSucceed client (sequence intent filter? document (context document))
      (client.script network) place →
    ¬ Succeeds client (.snippets extraction.language) (client.script network)[place]? →
    ∀ empty, AnswersEmpty empty →
      let answered := run { network with replies := replaced network.replies place empty }
      (run network).value.exitCode = answered.value.exitCode ∧
        (run network).value.output = answered.value.output

section

variable {client : Client} {options : BackendOptions} {world : World} {invocation : Invocation}
  {file intent : String} {filter? : Option String} {format : Report.Format}

theorem exists_request_of_isHome {home : Url} (isHome : IsHome client.serverUrl home)
    (query : Query) :
    ∃ request, client.request query.order = .ok request ∧
      request.method = query.order.method ∧ request.url.path = query.order.path ∧
      request.body = (query.order.body?.map Json.compact).getD "" := by
  obtain ⟨request, requested, method, url⟩ :=
    Client.request_of_isHome isHome query.isPlainPath_order
  refine ⟨request, requested, method, url ▸ (query.order.samePlace_url home).path, ?_⟩
  unfold Client.request at requested
  split at requested
  · cases requested
  · obtain rfl := Except.ok.inj requested
    cases query.order.body? with
    | none => rfl
    | some body => rfl

theorem lt_length_of_succeeds {home : Url} (isHome : IsHome client.serverUrl home) {query : Query}
    {script : List Reply} {place : Nat}
    (succeeds : Succeeds client query (script.drop place).head?) : place < script.length := by
  rw [List.head?_drop] at succeeds
  obtain ⟨answer, settled⟩ := succeeds
  refine Nat.lt_of_not_le fun short => ?_
  obtain ⟨message, lost⟩ := query.valueWith_none isHome
  rw [List.getElem?_eq_none short, lost] at settled
  cases settled

/-- A client that gets any reply at all gets all of them. -/
theorem script_eq_replies {network : Network} (some : client.script network ≠ []) :
    client.reaches network = true ∧ client.script network = network.replies := by
  unfold Client.script at some ⊢
  cases reached : client.reaches network with
  | false => exact absurd (if_neg (by simp [reached])) some
  | true => exact ⟨rfl, if_pos rfl⟩

theorem member?_searchRequest (context : Source.Context) (intent : String)
    (filter? : Option String) :
    (SearchRequest.of context intent filter?).toJson.member? "context" =
      some (Json.strings context.identifiers) := rfl

/-- Without a document the account of a command is that it fails. -/
theorem suggest_account_unreadable {context : Document → Except Failure Outcome}
    {network : Network} {run : Network → Ran World Ending}
    (value : (run network).value = .failed)
    (asked : Asked client [] network (run network).state.network) :
    SuggestAccount client intent filter? none context network run := by
  obtain ⟨sent, added, requested⟩ := asked.attempts
  constructor
  case requests => exact ⟨[], sent, added, requested, fun _ => rfl, nofun⟩
  case forms => exact nofun
  case search => exact nofun
  case done =>
    rw [value]
    exact ⟨nofun, nofun⟩
  case unsupported =>
    rw [value]
    exact ⟨nofun, nofun⟩
  case untouched =>
    rw [value]
    exact nofun
  case snippets => exact nofun

/-- A command for suggestions with a client follows one protocol, whatever the service replies. -/
theorem suggest_account
    (isSuggest : invocation.command = .suggest file intent filter? format options)
    (connected : (connect options world).value = .ok client) :
    let reached := (connect options world).state
    SuggestAccount client intent filter? (document? reached.files file)
      (fun document => ((⟨.defaults, resolverOf client⟩ : Assembler World).extractContext
        document.fileName document.text reached).value)
      world.network (fun network => execute invocation { world with network }) := by
  intro reached
  obtain ⟨home, isHome⟩ := isHome_of_connect connected
  let script := client.script world.network
  have contexts : (fun document : Document =>
      ((⟨.defaults, resolverOf client⟩ : Assembler World).extractContext
        document.fileName document.text reached).value) =
      fun document => contextWith client document script := by
    funext document
    rw [(Asks.context isHome document reached).value, connect_network]
    rfl
  rw [contexts]
  cases found : document? reached.files file with
  | none =>
      have ran := asks_suggest_unreadable connected isSuggest found
      exact suggest_account_unreadable ran.value ran.asked
  | some document =>
      have ran := asks_suggest connected isSuggest found
      let planned := sequence intent filter? document (contextWith client document script)
      have value : (execute invocation world).value =
          suggestEnding client intent filter? format document script := ran.value
      obtain ⟨sent, added, requested⟩ := ran.asked.attempts
      constructor
      case requests =>
        refine ⟨made client planned script, sent, added, requested, nofun, fun other same => ?_⟩
        obtain rfl := Option.some.inj same
        exact ⟨made_isPrefix client planned script, lt_length_made client planned script⟩
      case forms =>
        intro _ _ query _
        exact exists_request_of_isHome isHome query
      case search =>
        intro _ _ extraction _
        exact ⟨_, rfl, member?_searchRequest extraction.context intent filter?⟩
      case done =>
        rw [value, suggestEnding_exitCode_zero]
        refine ⟨fun held => ⟨document, rfl, held⟩, fun ⟨other, same, held⟩ => ?_⟩
        obtain rfl := Option.some.inj same
        exact held
      case unsupported =>
        rw [value, suggestEnding_exitCode_two]
        refine ⟨fun held => ⟨document, rfl, held⟩, fun ⟨other, same, held⟩ => ?_⟩
        obtain rfl := Option.some.inj same
        exact held
      case untouched =>
        intro two
        rw [value] at two
        have unsupported := (suggestEnding_exitCode_two intent filter? format).1 two
        rw [contextWith, sequence_of_unsupported intent filter? unsupported] at requested
        have noneSent : sent = [] := List.map_eq_nil_iff.1 requested
        rw [noneSent, List.append_nil] at added
        exact added
      case snippets =>
        intro other same extraction extracted place firstSucceed failed empty isEmpty
        obtain rfl := Option.some.inj same
        have searched := (firstSucceed_sequence intent filter? extracted).1 firstSucceed
        have within := lt_length_of_succeeds isHome searched
        obtain ⟨reaches, all⟩ :=
          script_eq_replies (List.ne_nil_of_length_pos (Nat.zero_lt_of_lt within))
        have ending := suggestEnding_replaced intent filter? format isHome extracted failed within
          isEmpty
        let changed : Network :=
          { world.network with replies := replaced world.network.replies place empty }
        have sameServer : changed.server? = world.network.server? := rfl
        have newScript : client.script changed = replaced script place empty := by
          rw [client.script_of_server? world.network sameServer, if_pos reaches]
          exact congrArg (replaced · place empty) all.symm
        have again := suggest_withNetwork connected isSuggest found changed
        rw [newScript, ending] at again
        have sameEnding := value.trans again.symm
        exact ⟨congrArg Ending.exitCode sameEnding, congrArg Ending.output sameEnding⟩

end

theorem not_succeeds_close (client : Client) (query : Query) :
    ¬ Succeeds client query (some .close) := by
  intro ⟨answer, settled⟩
  rw [Query.valueWith, Client.outcome] at settled
  cases requested : client.request query.order with
  | error fault =>
      rw [requested] at settled
      cases fault <;> cases settled
  | ok request =>
      rw [requested] at settled
      cases settled

/-- A Java source with a package, whose search is answered before the connection is closed on the
request for snippets. -/
theorem suggest_account_closed_snippets :
    let tree := Files.Node.emptyDirectory.put ["A.java"] (.file "import a.b.C;".toUTF8)
    let answering (text : String) : Reply :=
      .answer ⟨200, "application/json", text.toUTF8.data.toList, true⟩
    let modules := answering "[\"m\"]"
    let empty := answering "\x7b\x7d"
    let serving (replies : List Reply) : World :=
      ⟨[("COMPASS_SERVER_URL", "http://127.0.0.1:8080"), ("COMPASS_USER_KEY", "key")],
        ⟨⟨tree, []⟩, 0, fun _ => "first"⟩, ⟨some "127.0.0.1:8080", replies, []⟩⟩
    let invocation : Invocation :=
      ⟨.suggest "/A.java" "parse" none .json ⟨none, none, none⟩, none, false, false⟩
    let closed := execute invocation (serving [modules, empty, .close])
    let answered := execute invocation (serving [modules, empty, empty])
    closed.value.exitCode = 0 ∧ answered.value.exitCode = 0 ∧
      closed.value.output = answered.value.output := by
  intro tree answering modules empty serving invocation closed answered
  let client : Client := ⟨"http://127.0.0.1:8080", some "key", none, 10⟩
  let world := serving [modules, empty, .close]
  have reached : (connect ⟨none, none, none⟩ world).value.toOption = some client ∧
      document? (connect ⟨none, none, none⟩ world).state.files "/A.java" =
        some ⟨"/A.java", "import a.b.C;"⟩ := by
    decide +kernel
  have connected := eq_ok_of_toOption reached.1
  have script : client.script world.network = [modules, empty, .close] := by
    decide +kernel
  have isEmpty : AnswersEmpty empty :=
    ⟨200, ⟨_, rfl, rfl, by decide +kernel⟩, by decide, by decide⟩
  have isSuggest : invocation.command =
      .suggest "/A.java" "parse" none .json ⟨none, none, none⟩ := rfl
  have account := suggest_account isSuggest connected
  have zero : closed.value.exitCode = 0 := by
    decide +kernel
  obtain ⟨document, found, extraction, extracted, firstSucceed⟩ := account.done.1 zero
  obtain rfl := Option.some.inj (reached.2.symm.trans found)
  have mapped : (mapping ⟨"/A.java", "import a.b.C;"⟩).length = 1 := by
    decide +kernel
  have lost : ¬ Succeeds client (.snippets extraction.language)
      (client.script world.network)[(mapping ⟨"/A.java", "import a.b.C;"⟩).length + 1]? := by
    rw [script, mapped]
    exact not_succeeds_close client _
  obtain ⟨sameCode, sameOutput⟩ :=
    account.snippets _ found extraction extracted firstSucceed lost empty isEmpty
  rw [mapped] at sameCode sameOutput
  exact ⟨zero, sameCode.symm.trans zero, sameOutput⟩

end LibraryScout.Program
