import LibraryScout.Host.Ipv4
import LibraryScout.Host.Ipv6

/-!
Contract: URLs and their text.

Owns:
- hosts, and the parts of a URL in the form in which they are written;
- the ports that schemes have by themselves;
- why a text is no URL.

Does not own: reading a URL.
-/

namespace LibraryScout

namespace Url

inductive Host where
  | domain (name : String)
  | ipv4 (value : Nat)
  | ipv6 (pieces : List Nat)
deriving DecidableEq, Repr

def Host.text : Host → String
  | domain name => name
  | ipv4 value => LibraryScout.Host.Ipv4.text value
  | ipv6 pieces => "[" ++ LibraryScout.Host.Ipv6.text pieces ++ "]"

inductive Fault where
  | emptyHost
  | invalidName
  | invalidPort
  | invalidIpv4
  | invalidIpv6
  | invalidCharacter
  | relative
deriving DecidableEq, Repr

def Fault.message : Fault → String
  | emptyHost => "empty host"
  | invalidName => "invalid international domain name"
  | invalidPort => "invalid port number"
  | invalidIpv4 => "invalid IPv4 address"
  | invalidIpv6 => "invalid IPv6 address"
  | invalidCharacter => "invalid domain character"
  | relative => "relative URL without a base"

/-- The port of a scheme that has one by itself. -/
def defaultPort? (scheme : String) : Option Nat :=
  [("http", 80), ("https", 443), ("ws", 80), ("wss", 443), ("ftp", 21)].lookup scheme

/-- Schemes whose URLs always have a host and a path of names. -/
def isWeb (scheme : String) : Bool :=
  (defaultPort? scheme).isSome

end Url

/-- A URL. Its parts are in the form in which they are written, and a port that the scheme has by
itself is left out. -/
structure Url where
  scheme : String
  username : String
  password? : Option String
  host? : Option Url.Host
  port? : Option Nat
  path : String
  query? : Option String
  fragment? : Option String
deriving DecidableEq, Repr

namespace Url

/-- The port, or the one that the scheme has by itself. -/
def portOrDefault? (url : Url) : Option Nat :=
  url.port?.or (defaultPort? url.scheme)

/-- The user with the password, and the sign after them. -/
def userInfoText (url : Url) : String :=
  let password := match url.password? with
    | some password => ":" ++ password
    | none => ""
  if url.username = "" && password = "" then "" else url.username ++ password ++ "@"

def portText (url : Url) : String :=
  match url.port? with
  | some port => ":" ++ toString port
  | none => ""

/-- The path with the query. -/
def target (url : Url) : String :=
  url.path ++ match url.query? with
    | some query => "?" ++ query
    | none => ""

def text (url : Url) : String :=
  let authority := match url.host? with
    | some host => "//" ++ url.userInfoText ++ host.text ++ url.portText
    | none => if url.path.startsWith "//" then "/." else ""
  let fragment := match url.fragment? with
    | some fragment => "#" ++ fragment
    | none => ""
  url.scheme ++ ":" ++ authority ++ url.target ++ fragment

/-- The URL without user and password. -/
def withoutUser (url : Url) : Url :=
  { url with username := "", password? := none }

/-- The URL with one more field in its query. -/
def withField (url : Url) (name value : String) (encode : String → String) : Url :=
  let field := encode name ++ "=" ++ encode value
  { url with query? := some (match url.query? with
      | some "" => field
      | some query => query ++ "&" ++ field
      | none => field) }

end Url

end LibraryScout
