import LibraryScout.Backend.Client
import LibraryScout.CommandLine.Invocation
import LibraryScout.Http.Network
import LibraryScout.Settings.Identity

/-!
Contract: the world of the program, and the way from options and environment to a client.

Files, keys and the network change while the program runs; the environment does not. Options hide
what the environment says. Settings are checked before the key of the user is looked up, so
unusable settings change no file.
-/

namespace LibraryScout.Program

open LibraryScout.CommandLine LibraryScout.Settings

/-! ## The world -/

/-- All that the program depends on and acts on. -/
structure World where
  environment : Settings.Environment
  keyring : Settings.Keyring
  network : Http.Network

namespace World

variable {α : Type}

def files (world : World) : Files.Store :=
  world.keyring.files

/-- A run over files and keys. -/
def withKeyring (run : Run Settings.Keyring α) : Run World α :=
  Run.within World.keyring (fun keyring world => { world with keyring }) run

/-- A run over the network. -/
def withNetwork (run : Run Http.Network α) : Run World α :=
  Run.within World.network (fun network world => { world with network }) run

end World

/-! ## Settings and clients -/

/-- The settings with what the options say in place of what the environment says. -/
def overridden (configuration : Configuration) (options : BackendOptions) :
    Except Fault Configuration := do
  let served ← match options.server? with
    | some text => configuration.withServer text
    | none => pure configuration
  let proxied : Configuration :=
    match options.proxy? with
    | some text => { served with proxy? := some text |>.filter fun proxy => proxy ≠ "" }
    | none => served
  return { proxied with timeoutSeconds := options.timeout?.getD proxied.timeoutSeconds }

/-- Settings that were checked, without what is needed to know the user. -/
def checked (configuration : Configuration) (options : BackendOptions) :
    Except Fault Configuration := do
  let chosen ← overridden configuration options
  chosen.validate
  return chosen

/-- The settings for the options. -/
def configure (options : BackendOptions) : Run World (Except Fault Configuration) := do
  let world ← Run.read
  let (configuration, events) := Configuration.ofEnvironment world.environment
  Run.reportAll events
  match checked configuration options with
  | .error fault => return .error fault
  | .ok usable => World.withKeyring (usable.withPersistedKey world.environment)

/-- The client for the options, or why there is none. -/
def connect (options : BackendOptions) : Run World (Except String Backend.Client) := do
  match ← configure options with
  | .error fault => return .error ("Invalid configuration: " ++ fault.message)
  | .ok configuration =>
      match Backend.Client.ofConfiguration configuration with
      | .error error => return .error ("Failed to create backend client: " ++ error.message)
      | .ok client => return .ok client

/-- A resolver that makes its client when it is first needed. -/
def lateResolver (options : BackendOptions) : Assembly.Resolver World :=
  fun language packages => do
    match ← connect options with
    | .error reason => return .error (.configuration reason)
    | .ok client => World.withNetwork (client.modules language packages)

/-- A resolver that uses a client. -/
def resolverOf (client : Backend.Client) : Assembly.Resolver World :=
  fun language packages => World.withNetwork (client.modules language packages)

end LibraryScout.Program
