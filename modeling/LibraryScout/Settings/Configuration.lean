import LibraryScout.Log.Event
import LibraryScout.Number.Basic
import LibraryScout.Settings.Basic
import LibraryScout.Text.Lowercase

/-!
Contract: the settings for requests to the service.

Owns:
- settings from the environment, where what is missing or unusable gives way to a default;
- checking settings, in a fixed order of faults;
- changing the server, and the text that shows settings.

Does not own: where the key of a user is kept.
-/

namespace LibraryScout.Settings

structure Configuration where
  serverUrl : String
  proxy? : Option String
  userKey? : Option String
  timeoutSeconds : Nat
  logLevel : String
deriving DecidableEq, Repr

namespace Configuration

def defaultServer : String :=
  "https://www.code-compass.com:443"

def defaultTimeout : Nat :=
  10

def defaultLevel : String :=
  "info"

/-- The server that the environment names, in normal form; one that is unusable is reported. -/
def environmentServer (environment : Environment) : String × List Log.Event :=
  match environment.get? "COMPASS_SERVER_URL" with
  | none => (defaultServer, [])
  | some text =>
      if Text.isBlankText text then
        (defaultServer, [])
      else
        match normalizeServer text with
        | .ok server => (server, [])
        | .error fault =>
            (defaultServer, [Log.Event.warn .settings (fault.message ++ ", using default server")])

/-- The settings that the environment gives. -/
def ofEnvironment (environment : Environment) : Configuration × List Log.Event :=
  let (serverUrl, events) := environmentServer environment
  let proxy? := ((environment.get? "COMPASS_PROXY").map Text.trimmed).filter fun text => text ≠ ""
  let userKey? := (environment.get? "COMPASS_USER_KEY").filter fun key => !Text.isBlankText key
  let timeout? := (environment.get? "COMPASS_REQUEST_TIMEOUT").bind Number.whole?
  let level := Text.lowercased ((environment.get? "COMPASS_LOG_LEVEL").getD defaultLevel)
  (⟨serverUrl, proxy?, userKey?, timeout?.getD defaultTimeout, level⟩, events)

/-- The first fault of settings, if they have one. -/
def validate (configuration : Configuration) : Except Fault Unit :=
  if configuration.timeoutSeconds = 0 then
    .error .noTimeout
  else if configuration.logLevel ∉ levelNames then
    .error .unknownLevel
  else
    match normalizeServer configuration.serverUrl with
    | .error fault => .error fault
    | .ok _ =>
        match configuration.proxy? with
        | none => .ok ()
        | some text =>
            match Url.parse text with
            | .error _ => .error (.proxy text)
            | .ok _ => .ok ()

/-- The settings with another server, in normal form. -/
def withServer (configuration : Configuration) (text : String) : Except Fault Configuration := do
  return { configuration with serverUrl := ← normalizeServer text }

/-- Settings as they are shown. -/
def text (configuration : Configuration) : String :=
  "Compass Configuration:\n  Backend URL: " ++ configuration.serverUrl ++
    "\n  Proxy: " ++ configuration.proxy?.getD "no proxy" ++
    "\n  Request Timeout: " ++ toString configuration.timeoutSeconds ++
    "s\n  Log Level: " ++ configuration.logLevel

end Configuration

/-- The version of the program. -/
def version : String :=
  "0.3.0"

/-- How the program makes itself known to the service. -/
def clientKey : String :=
  "compass-cli-version-" ++ version

end LibraryScout.Settings
