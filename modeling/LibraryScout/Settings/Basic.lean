import LibraryScout.Files.Node
import LibraryScout.Text.Blank
import LibraryScout.Url.Reading

/-!
Contract: what settings are made from.

Owns:
- environment variables;
- why settings cannot be used, and the texts for that;
- the normal form of a server's URL: scheme, host and port, with the port always written; user,
  path, query and fragment are dropped.
-/

namespace LibraryScout.Settings

/-! ## Environment variables -/

/-- Variables with their values; a variable that is not listed is unset. -/
abbrev Environment :=
  List (String × String)

/-- The value of a variable. -/
def Environment.get? (environment : Environment) (name : String) : Option String :=
  environment.lookup name

/-! ## Faults -/

/-- Why the text of a server is none. -/
inductive ServerFault where
  | notUrl (fault : Url.Fault)
  | otherScheme
  | noHost
  | noPort
deriving DecidableEq, Repr

def ServerFault.message : ServerFault → String
  | notUrl fault => fault.message
  | otherScheme => "scheme must be http or https"
  | noHost => "missing host"
  | noPort => "missing port"

inductive Fault where
  | server (text : String) (fault : ServerFault)
  | proxy (text : String)
  | noTimeout
  | unknownLevel
  | userKey (path : String) (fault : Files.Fault)
deriving DecidableEq, Repr

/-- The levels that settings may name, as they are listed. -/
def levelNames : List String :=
  ["trace", "debug", "info", "warn", "error"]

namespace Fault

def invalid (reason : String) : String :=
  "Configuration validation failed: " ++ reason

def message : Fault → String
  | server text fault => "Invalid server URL '" ++ text ++ "': " ++ fault.message
  | proxy text => "Invalid proxy URL '" ++ text ++ "'"
  | noTimeout => invalid "request_timeout_secs must be greater than 0"
  | unknownLevel => invalid ("log_level must be one of: " ++ String.intercalate ", " levelNames)
  | userKey path fault => "Failed to persist user key at " ++ path ++ ": " ++ fault.message

end Fault

/-! ## Servers -/

/-- Scheme, host and port of a URL. -/
def serverOf (url : Url) : Except ServerFault String :=
  if url.scheme ≠ "http" ∧ url.scheme ≠ "https" then
    .error .otherScheme
  else
    match url.host?, url.portOrDefault? with
    | none, _ => .error .noHost
    | _, none => .error .noPort
    | some host, some port => .ok (url.scheme ++ "://" ++ host.text ++ ":" ++ toString port)

/-- The normal form of a server's URL. -/
def normalizeServer (text : String) : Except Fault String :=
  match Url.parse (Text.trimmed text) with
  | .error fault => .error (.server text (.notUrl fault))
  | .ok url =>
      match serverOf url with
      | .error fault => .error (.server text fault)
      | .ok server => .ok server

end LibraryScout.Settings
