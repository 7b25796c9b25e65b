import LibraryScout.Http.ContentType
import LibraryScout.Http.Status
import LibraryScout.Run
import LibraryScout.Url.Reading

/-!
Contract: sending requests, as a function of what a server replies.

Owns:
- requests and responses;
- a network with at most one server, whose replies are given in advance; every other address
  refuses connections;
- the requests that were sent, in their order, and which of them the server has read;
- the ways in which sending fails.

Does not own: what requests mean to the service.
-/

namespace LibraryScout.Http

inductive Method where
  | get
  | post
deriving DecidableEq, Repr

def Method.name : Method → String
  | get => "GET"
  | post => "POST"

structure Request where
  method : Method
  url : Url
  headers : List (String × String)
  body : String
deriving DecidableEq, Repr

/-- A response whose head has arrived. -/
structure Response where
  status : Status
  contentType : String
  bytes : List UInt8
  /-- All the announced bytes of the body have arrived. -/
  complete : Bool
deriving DecidableEq, Repr

namespace Response

/-- The text of a body, if all of it has arrived. -/
def text? (response : Response) : Option String :=
  if response.complete then
    some (Charset.decode (ContentType.encoding response.contentType) response.bytes)
  else
    none

/-- A response as it is delivered: where the status allows no body, none is waited for. -/
def delivered (response : Response) : Response :=
  if Status.hasNoBody response.status then { response with bytes := [], complete := true }
  else response

end Response

/-- What a server does with one connection. -/
inductive Reply where
  | answer (response : Response)
  /-- Reads the request and closes the connection. -/
  | close
  /-- Never answers. -/
  | silence
deriving DecidableEq, Repr

/-- Why there is no response. -/
inductive SendFault where
  /-- The text is no URL. -/
  | notUrl
  /-- The URL is none to which requests can be sent. -/
  | unusable (url : Url)
  | unreachable (url : Url)
  | interrupted (url : Url)
  | timedOut (url : Url)
deriving DecidableEq, Repr

namespace SendFault

def message : SendFault → String
  | notUrl => "builder error"
  | unusable url => "builder error for url (" ++ url.text ++ ")"
  | unreachable url => "error sending request for url (" ++ url.text ++ ")"
  | interrupted url => "error sending request for url (" ++ url.text ++ ")"
  | timedOut url => "error sending request for url (" ++ url.text ++ ")"

end SendFault

/-- A request as a server reads it. -/
structure Received where
  method : Method
  /-- The target on the request line. -/
  target : String
  headers : List (String × String)
  body : String
deriving DecidableEq, Repr

/-- A request that was sent, in the form in which a server reads it. -/
structure Attempt where
  request : Received
  /-- A server has read the request. -/
  read : Bool
deriving DecidableEq, Repr

/-- One server with its replies in order, and the requests sent so far. -/
structure Network where
  /-- The address of the server, host and port with a colon between them. -/
  server? : Option String
  replies : List Reply
  attempts : List Attempt
deriving DecidableEq, Repr

namespace Network

/-- A network that can reach no one. -/
def unreachable : Network :=
  ⟨none, [], []⟩

/-- The requests that the server has read. -/
def received (network : Network) : List Received :=
  (network.attempts.filter Attempt.read).map Attempt.request

/-- The network with one more request sent. -/
def withAttempt (network : Network) (request : Received) (read : Bool) : Network :=
  { network with attempts := network.attempts ++ [⟨request, read⟩] }

end Network

/-! ## Sending -/

/-- The address that a URL names. -/
def addressOf (url : Url) : String :=
  match url.host?, url.portOrDefault? with
  | some host, some port => host.text ++ ":" ++ toString port
  | some host, none => host.text ++ ":80"
  | none, _ => ""

/-- A URL that names a host. -/
def hasHost (url : Url) : Bool :=
  match url.host? with
  | some host => host.text ≠ ""
  | none => false

/-- The proxy that a text names: a URL with a host, or what becomes one after `http://`. -/
def proxyOf? (text : String) : Option Url :=
  let second? : Option Url :=
    match Url.parse ("http://" ++ text) with
    | .ok url => if hasHost url then some url else none
    | .error _ => none
  match Url.parse text with
  | .ok url => if hasHost url then some url else second?
  | .error .relative => second?
  | .error _ => none

/-- Proxies of these schemes are used; a proxy of another scheme is as good as none. -/
def isProxyScheme (scheme : String) : Bool :=
  ["http", "https", "socks4", "socks4a", "socks5", "socks5h"].contains scheme

/-- The proxy through which requests go, if there is one that can be used. -/
def usedProxy? (proxy? : Option Url) : Option Url :=
  proxy?.filter fun proxy => isProxyScheme proxy.scheme

/-- A request as it arrives by way of a proxy or straight. -/
def Request.received (request : Request) (throughProxy : Bool) : Received :=
  let url := request.url
  let target := if throughProxy then { url with fragment? := none }.text else url.target
  ⟨request.method, target, request.headers, request.body⟩

/-- Requests can be sent to URLs of the web that name a host. -/
def isSendable (url : Url) : Bool :=
  hasHost url && (url.scheme = "http" || url.scheme = "https")

/-- The URL to which a connection is opened: that of the proxy, or the URL itself. -/
def firstStop (proxy? : Option Url) (url : Url) : Url :=
  (usedProxy? proxy?).getD url

/-- Whether a request for a URL gets to the server. Encrypted connections can reach no one. -/
def Network.isReached (network : Network) (proxy? : Option Url) (url : Url) : Bool :=
  let first := firstStop proxy? url
  url.scheme ≠ "https" && first.scheme ≠ "https" && network.server? = some (addressOf first)

namespace Reply

/-- Whether the server reads a request before it replies. -/
def readsRequest : Reply → Bool
  | silence => false
  | _ => true

/-- What comes of a request for a URL that gets a reply. -/
def outcome (url : Url) : Reply → Except SendFault Response
  | close => .error (.interrupted url)
  | silence => .error (.timedOut url)
  | answer response =>
      if Status.isUnusable response.status then .error (.interrupted url)
      else .ok response.delivered

end Reply

/-- Sends one request, which takes the first reply that is left. Without one the connection is
closed. -/
def send (proxy? : Option Url) (request : Request) : Run Network (Except SendFault Response) :=
  Run.update fun network =>
    let url := request.url
    let sent := request.received (usedProxy? proxy?).isSome
    if !isSendable url then
      (.error (.unusable url), network)
    else if !network.isReached proxy? url then
      (.error (.unreachable url), network.withAttempt sent false)
    else
      match network.replies with
      | [] => (.error (.interrupted url), network.withAttempt sent false)
      | reply :: later =>
          (reply.outcome url,
            { network with replies := later }.withAttempt sent reply.readsRequest)

end LibraryScout.Http
