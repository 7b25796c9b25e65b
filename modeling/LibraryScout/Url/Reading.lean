import LibraryScout.Host.Domain
import LibraryScout.Url.Basic
import LibraryScout.Url.Percent

/-!
Contract: reading URLs (WHATWG URL, without a base URL).

Blanks and controls around a text, and tabs and line breaks anywhere in it, do not count. In the
schemes of the web a backslash counts as a slash, the host is a name or an address, and the path
starts with a slash.
-/

namespace LibraryScout.Url

open LibraryScout.Host

/-- The text that counts. -/
def significant (text : List Char) : List Char :=
  let isEdge (character : Char) : Bool := character.toNat ≤ 32
  let trimmed := ((text.dropWhile isEdge).reverse.dropWhile isEdge).reverse
  trimmed.filter fun character => character ≠ '\t' ∧ character ≠ '\n' ∧ character ≠ '\r'

/-- The scheme, in small letters, and the text after its colon. -/
def scheme? (text : List Char) : Option (String × List Char) :=
  let isPart (character : Char) : Bool :=
    character.isAlphanum || character = '+' || character = '-' || character = '.'
  match text with
  | [] => none
  | first :: _ =>
      if first.isAlpha then
        match text.dropWhile isPart with
        | ':' :: rest => some (String.ofList ((text.takeWhile isPart).map Char.toLower), rest)
        | _ => none
      else
        none

/-! ## Hosts -/

/-- The pieces of an IPv6 address in brackets. -/
def bracketed (text : List Char) : Except Fault Host :=
  match text.reverse with
  | ']' :: inner =>
      match Ipv6.pieces? (inner.reverse.drop 1) with
      | some pieces => .ok (.ipv6 pieces)
      | none => .error .invalidIpv6
  | _ => .error .invalidIpv6

/-- The host of a URL of the web. -/
def webHost (text : List Char) : Except Fault Host :=
  if text.head? = some '[' then
    bracketed text
  else
    match String.fromUTF8? (ByteArray.mk (Percent.decode text).toArray) with
    | none => .error .invalidName
    | some decoded =>
        match Domain.toAscii? decoded.toList with
        | none => .error .invalidName
        | some [] => .error .emptyHost
        | some name =>
            if Ipv4.endsInNumber name then
              match Ipv4.value? name with
              | some value => .ok (.ipv4 value)
              | none => .error .invalidIpv4
            else
              .ok (.domain (String.ofList name))

/-- Characters that no host holds, in any scheme. -/
def isForbidden (character : Char) : Bool :=
  "\x00\t\n\r #/:<>?@[\\]^|".toList.contains character

/-- The host of a URL of another scheme, which stays as it is written. -/
def otherHost (text : List Char) : Except Fault Host :=
  if text.head? = some '[' then bracketed text
  else if text.any isForbidden then .error .invalidCharacter
  else .ok (.domain (String.ofList (Percent.encode [] text)))

/-- The text of the host and the text after it; a colon within brackets belongs to the host. -/
def splitHost (web : Bool) (inBrackets : Bool) : List Char → List Char × List Char
  | [] => ([], [])
  | character :: rest =>
      let ends := (character = ':' && !inBrackets) || character = '/' || character = '?' ||
        character = '#' || (web && character = '\\')
      if ends then
        ([], character :: rest)
      else
        let inside :=
          if character = '[' then true else if character = ']' then false else inBrackets
        let (host, after) := splitHost web inside rest
        (character :: host, after)

/-! ## Authority -/

/-- The text before the path, query and fragment, and the text from there on. -/
def splitAuthority (web : Bool) (text : List Char) : List Char × List Char :=
  let isInside (character : Char) : Bool :=
    !(character = '/' || character = '?' || character = '#' || (web && character = '\\'))
  (text.takeWhile isInside, text.dropWhile isInside)

/-- The user and the password before the last at sign, and the text after it. -/
structure UserInfo where
  /-- There is an at sign with nothing before it. -/
  blank : Bool
  username : String
  password? : Option String
  rest : List Char

def userInfo (web : Bool) (text : List Char) : UserInfo :=
  let (authority, after) := splitAuthority web text
  match Text.beforeLast? '@' authority with
  | none => ⟨false, "", none, text⟩
  | some written =>
      let encoded (part : List Char) : String :=
        String.ofList (Percent.encode Percent.inUserInfo part)
      let username := Text.upTo ':' written
      let password? := match written.drop username.length with
        | _ :: first :: later => some (encoded (first :: later))
        | _ => none
      ⟨written.isEmpty, encoded username, password?, authority.drop (written.length + 1) ++ after⟩

/-- The port after a colon, and the text after it. -/
def readPort (port : Nat) (digits : Bool) : List Char → Except Fault (Option Nat × List Char)
  | [] => .ok (if digits then some port else none, [])
  | character :: rest =>
      if character.isDigit then
        let next := port * 10 + (character.toNat - '0'.toNat)
        if 65535 < next then .error .invalidPort else readPort next true rest
      else if "/\\?#".toList.contains character then
        .ok (if digits then some port else none, character :: rest)
      else
        .error .invalidPort

/-! ## Path, query and fragment -/

/-- A segment that stands for the directory itself, or for the one above. -/
def isSingleDot (segment : List Char) : Bool :=
  (String.ofList (segment.map Char.toLower)) ∈ [".", "%2e"]

def isDoubleDot (segment : List Char) : Bool :=
  (String.ofList (segment.map Char.toLower)) ∈ ["..", ".%2e", "%2e.", "%2e%2e"]

/-- The segments of a path with its dots followed. -/
def followDots (reached : List (List Char)) : List (List Char) → List (List Char)
  | [] => reached
  | [last] =>
      if isDoubleDot last then reached.dropLast ++ [[]]
      else if isSingleDot last then reached ++ [[]]
      else reached ++ [last]
  | segment :: later =>
      if isDoubleDot segment then followDots reached.dropLast later
      else if isSingleDot segment then followDots reached later
      else followDots (reached ++ [segment]) later

/-- A path of segments as it is written. -/
def pathText (web : Bool) (text : List Char) : String :=
  let slashes := if web then text.map fun character => if character = '\\' then '/' else character
    else text
  let inner := match slashes with
    | '/' :: rest => rest
    | rest => rest
  let segments := followDots [] (Text.cut '/' inner)
  String.join (segments.map fun segment =>
    "/" ++ String.ofList (Percent.encode Percent.inPath segment))

/-- The query and the fragment that a text ends with. -/
def queryAndFragment (web : Bool) (text : List Char) : Option String × Option String :=
  let before := Text.upTo '#' text
  let fragment? := match text.drop before.length with
    | _ :: fragment => some (String.ofList (Percent.encode Percent.inFragment fragment))
    | [] => none
  let query? := match before with
    | '?' :: query =>
        some (String.ofList (Percent.encode
          (if web then Percent.inWebQuery else Percent.inQuery) query))
    | _ => none
  (query?, fragment?)

def splitPath (text : List Char) : List Char × List Char :=
  let isInside (character : Char) : Bool := character ≠ '?' && character ≠ '#'
  (text.takeWhile isInside, text.dropWhile isInside)

/-! ## Whole URLs -/

/-- A URL from the text after the two slashes before its host. -/
def afterSlashes (scheme : String) (text : List Char) : Except Fault Url := do
  let web := isWeb scheme
  let user := userInfo web text
  let (hostText, afterHost) := splitHost web false user.rest
  if web && hostText = [] then
    .error .emptyHost
  else
    let host ← if web then webHost hostText else otherHost hostText
    let needsHost := user.username ≠ "" || user.password?.isSome ||
      afterHost.head? = some ':' || (user.blank && afterHost ≠ [])
    if hostText = [] && needsHost then
      .error .emptyHost
    else
      let (port?, rest) ← match afterHost with
        | ':' :: digits => readPort 0 false digits
        | other => pure (none, other)
      let (path, after) := splitPath rest
      let (query?, fragment?) := queryAndFragment web after
      return ⟨scheme, user.username, user.password?, some host,
        port?.filter (fun port => defaultPort? scheme ≠ some port),
        if path = [] && !web then "" else pathText web path, query?, fragment?⟩

/-- A drive letter in the place of a host names no host. -/
def isDrive (text : List Char) : Bool :=
  match text with
  | [letter, mark] => letter.isAlpha && (mark = ':' || mark = '|')
  | _ => false

/-- A URL of a local file from the text after its scheme. -/
def ofFile (text : List Char) : Except Fault Url := do
  let slashes := text.map fun character => if character = '\\' then '/' else character
  let make (host : String) (rest : List Char) : Url :=
    let (path, after) := splitPath rest
    let (query?, fragment?) := queryAndFragment true after
    ⟨"file", "", none, some (.domain host), none, pathText true path, query?, fragment?⟩
  match slashes with
  | '/' :: '/' :: rest =>
      let (hostText, after) := splitAuthority true rest
      if hostText = [] then
        return make "" after
      else if isDrive hostText then
        return make "" rest
      else
        match ← webHost hostText with
        | .domain "localhost" => return make "" after
        | host => return { make "" after with host? := some host }
  | _ => return make "" slashes

/-- A URL of a scheme outside the web from the text after its scheme. -/
def ofOther (scheme : String) (text : List Char) : Except Fault Url :=
  match text with
  | '/' :: '/' :: rest => afterSlashes scheme rest
  | _ =>
      let (path, after) := splitPath text
      let (query?, fragment?) := queryAndFragment false after
      let written := if path.head? = some '/' then pathText false path
        else String.ofList (Percent.encode [] path)
      .ok ⟨scheme, "", none, none, none, written, query?, fragment?⟩

/-- The URL that a text stands for. -/
def parse (text : String) : Except Fault Url :=
  match scheme? (significant text.toList) with
  | none => .error .relative
  | some (scheme, rest) =>
      if scheme = "file" then ofFile rest
      else if isWeb scheme then
        afterSlashes scheme (rest.dropWhile fun character => character = '/' || character = '\\')
      else ofOther scheme rest

end LibraryScout.Url
