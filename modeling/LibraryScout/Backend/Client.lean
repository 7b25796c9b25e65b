import LibraryScout.Assembly.Assembler
import LibraryScout.Backend.Wire
import LibraryScout.Http.Network
import LibraryScout.Settings.Configuration

/-!
Contract: the client of the service.

Owns:
- building a client from settings, which fails on a key that no header can hold and on a proxy
  that is none;
- the requests of the service, each of which is sent once and carries the same identity;
- what comes of a request: the one reply decides.

Does not own: how requests travel.
-/

namespace LibraryScout.Backend

open LibraryScout.Http LibraryScout.Json LibraryScout.Settings LibraryScout.Source

structure Client where
  /-- The URL that all paths are appended to, without slashes at its end. -/
  serverUrl : String
  userKey? : Option String
  proxy? : Option Url
  timeoutSeconds : Nat
deriving DecidableEq, Repr

namespace Client

/-! ## Building -/

/-- The value of a header holds no controls but tabs. -/
def isHeaderText (text : String) : Bool :=
  text.toList.all fun character =>
    character = '\t' || (32 ≤ character.toNat && character.toNat ≠ 127)

def headerFault (text : String) : Error :=
  .configuration ("Invalid header value '" ++ text ++ "': failed to parse header value")

def proxyFault (text : String) : Error :=
  .configuration ("Invalid proxy '" ++ text ++ "': " ++ SendFault.notUrl.message)

def withoutSlashes (text : String) : String :=
  String.ofList (text.toList.reverse.dropWhile fun character => character = '/').reverse

/-- The client for some settings. -/
def ofConfiguration (configuration : Configuration) : Except Error Client :=
  match configuration.userKey?.filter fun key => !isHeaderText key with
  | some key => .error (headerFault key)
  | none =>
      let make (proxy? : Option Url) : Client :=
        ⟨withoutSlashes configuration.serverUrl, configuration.userKey?, proxy?,
          configuration.timeoutSeconds⟩
      match configuration.proxy? with
      | none => .ok (make none)
      | some text =>
          match proxyOf? text with
          | some proxy => .ok (make (some proxy))
          | none => .error (proxyFault text)

/-! ## Requests -/

/-- The headers of every request. -/
def identity (client : Client) : List (String × String) :=
  (client.userKey?.toList.map fun key => ("user_key", key)) ++ [("vscode_plugin_key", clientKey)]

/-- A request of the service: its method, path and body, and the fields of its query. -/
structure Order where
  method : Method
  path : String
  body? : Option Json
  query : List (String × String)

namespace Order

def get (path : String) : Order :=
  ⟨.get, path, none, []⟩

def post (path : String) (body : Json) : Order :=
  ⟨.post, path, some body, []⟩

end Order

def urlText (client : Client) (order : Order) : String :=
  client.serverUrl ++ order.path

/-- The request that an order stands for. -/
def request (client : Client) (order : Order) : Except SendFault Request :=
  match Url.parse (client.urlText order) with
  | .error _ => .error .notUrl
  | .ok url =>
      let queried := order.query.foldl (fun url (name, value) =>
        url.withField name value Url.Percent.encodeFormField) url.withoutUser
      let contentType := match order.body? with
        | some _ => [("content-type", "application/json")]
        | none => []
      .ok ⟨order.method, queried, [("accept", "*/*")] ++ contentType ++ client.identity,
        match order.body? with
        | some body => body.compact
        | none => ""⟩

/-- Sends an order, once. -/
def exchange (client : Client) (order : Order) : Run Network (Except SendFault Response) :=
  match client.request order with
  | .error fault => Run.pure (.error fault)
  | .ok request => send client.proxy? request

/-! ## Judging replies -/

/-- What stands for a body that was cut short. -/
def cutShort : String :=
  "error decoding response body"

/-- The failure of an order that got no response, and its report. -/
def sendFailure (client : Client) (order : Order) (fault : SendFault) : Error × Log.Event :=
  let failed := Log.Event.error .backend
    ("Backend request to " ++ client.urlText order ++ " failed: " ++ fault.message)
  match fault with
  | .unreachable _ =>
      (.network fault.message,
        Log.Event.error .backend ("Cannot connect to backend at " ++ client.serverUrl))
  | .timedOut _ => (.timeout client.timeoutSeconds, failed)
  | _ => (.network fault.message, failed)

/-- The failure of an order whose response was cut short, and its report. -/
def cutFailure (client : Client) (order : Order) : Error × Log.Event :=
  (.invalidResponse cutShort none,
    Log.Event.error .backend
      ("Backend request to " ++ client.urlText order ++ " failed: " ++ cutShort))

/-- The failure of an order that was refused with a status and a text. -/
def refused (status : Status) (text : String) : Error :=
  .api ("HTTP " ++ Status.text status ++ ": " ++ text) (some status)

/-- How much of a body that cannot be read is kept, in characters. -/
def longestExcerpt : Nat :=
  512

/-- A body, or the start of a longer one. -/
def excerpt (text : String) : String :=
  if longestExcerpt < text.length then
    String.ofList (text.toList.take longestExcerpt) ++ "..."
  else
    text

/-- What comes of an order for data, with the report of a failure. -/
def judge {α : Type} (client : Client) (order : Order) (decoder : Decoder α)
    (outcome : Except SendFault Response) : Except Error α × List Log.Event :=
  match outcome with
  | .error fault =>
      let (failure, event) := client.sendFailure order fault
      (.error failure, [event])
  | .ok response =>
      match response.text? with
      | none =>
          let (failure, event) := client.cutFailure order
          (.error failure, [event])
      | some text =>
          if Status.isSuccess response.status then
            match Json.decode decoder text with
            | .ok value => (.ok value, [])
            | .error fault =>
                let reason := fault.message text.toList
                (.error (.invalidResponse ("JSON parse error: " ++ reason) (some (excerpt text))),
                  [Log.Event.error .backend ("Failed to parse backend response for " ++
                    order.path ++ ": " ++ reason)])
          else
            (.error (refused response.status text),
              [Log.Event.error .backend ("Backend returned error status " ++
                Status.text response.status ++ " for " ++ order.path ++ ": " ++ text)])

/-- Sends an order for data. -/
def ask {α : Type} (client : Client) (order : Order) (decoder : Decoder α) :
    Run Network (Except Error α) := do
  let outcome ← client.exchange order
  let (result, events) := client.judge order decoder outcome
  Run.reportAll events
  return result

/-! ## The service -/

def modulesOrder (language : Language) (packages : List String) : Order :=
  .post ("/mapping/" ++ language.name ++ "/modulesForPackages") (Json.strings packages)

/-- The modules that hold some packages. -/
def modules (client : Client) (language : Language) (packages : List String) :
    Run Network (Except Error (List String)) :=
  client.ask (modulesOrder language packages) (Decoder.list Decoder.text)

def searchOrder (language : Language) (request : SearchRequest) : Order :=
  .post ("/searchByIntent/" ++ language.name) request.toJson

/-- The modules that serve an intent within a context. -/
def search (client : Client) (language : Language) (context : Context) (intent : String)
    (filter? : Option String) : Run Network (Except Error SearchResponse) :=
  client.ask (searchOrder language (SearchRequest.of context intent filter?))
    SearchResponse.decoder

/-- The request for the categories nearest to a context; an empty filter counts as none. -/
def categoriesOrder (language : Language) (num : Nat) (context : Context)
    (filter? : Option String) : Order :=
  let place := language.name ++ "/" ++ toString num
  match filter?.filter fun filter => filter ≠ "" with
  | some filter =>
      .post ("/filteredNearestCategories/" ++ place) (filteredCategories context filter)
  | none => .post ("/nearestCategories/" ++ place) (Json.strings context.identifiers)

def categories (client : Client) (language : Language) (num : Nat) (context : Context)
    (filter? : Option String) : Run Network (Except Error Categories) :=
  client.ask (categoriesOrder language num context filter?) Categories.decoder

def snippetsOrder (language : Language) : Order :=
  .get ("/getSnippets/" ++ language.name)

/-- The usage snippets of a language by module. -/
def snippets (client : Client) (language : Language) : Run Network (Except Error Snippets) := do
  match ← client.ask (snippetsOrder language) Decoder.map with
  | .error failure => return .error failure
  | .ok found =>
      Run.report (Log.Event.info .backend
        ("Got " ++ toString found.length ++ " snippets from server"))
      return .ok found

def intentsOrder (language : Language) : Order :=
  .get ("/intents/" ++ language.name)

/-- The intents that the service knows for a language. -/
def intents (client : Client) (language : Language) : Run Network (Except Error (List Json)) :=
  client.ask (intentsOrder language) (Decoder.list Decoder.any)

def librariesOrder (language : Language) : Order :=
  .get ("/libs/" ++ language.name)

/-- The libraries that the service knows for a language. -/
def libraries (client : Client) (language : Language) : Run Network (Except Error Libraries) := do
  match ← client.ask (librariesOrder language) Libraries.decoder with
  | .error failure => return .error failure
  | .ok found =>
      Run.report (Log.Event.info .backend (toString found.total ++ " libs downloaded"))
      return .ok found

def feedbackOrder (client : Client) (body : Json) : Order :=
  ⟨.post, "/feedback", some body, [("userKey", client.userKey?.getD "")]⟩

/-- What comes of feedback, with its report; the body of a response only counts when the response
is a refusal, and one that was cut short counts as empty. -/
def judgeFeedback (client : Client) (order : Order) (outcome : Except SendFault Response) :
    Except Error Unit × List Log.Event :=
  match outcome with
  | .error fault =>
      let (failure, event) := client.sendFailure order fault
      (.error failure, [event])
  | .ok response =>
      if Status.isSuccess response.status then
        (.ok (), [Log.Event.info .backend "Feedback sent"])
      else
        let text := response.text?.getD ""
        (.error (refused response.status text),
          [Log.Event.error .backend ("Feedback rejected with status " ++
            Status.text response.status ++ ": " ++ text)])

/-- Sends feedback. -/
def feedback (client : Client) (body : Json) : Run Network (Except Error Unit) := do
  let order := client.feedbackOrder body
  let outcome ← client.exchange order
  let (result, events) := client.judgeFeedback order outcome
  Run.reportAll events
  return result

/-- The client as what maps packages to modules. -/
def resolver (client : Client) : Assembly.Resolver Network :=
  client.modules

end Client

end LibraryScout.Backend
