import LibraryScout.CommandLine.Reading

/-!
Contract: command lines as commands with their options.

Arguments that hold for every subcommand may stand before or after its name; given twice, the one
after the name holds.
-/

namespace LibraryScout.CommandLine

open LibraryScout.Source

/-- How to reach the service; what is not given is left to the environment. -/
structure BackendOptions where
  server? : Option String
  proxy? : Option String
  timeout? : Option Nat
deriving DecidableEq, Repr

inductive Command where
  | classify (file : String) (format : Report.Format)
  | context (files : List String) (format : Report.Format) (backend : BackendOptions)
  | scan (directory : String) (format : Report.Format) (maxDepth maxFiles : Nat) (hidden : Bool)
  | suggest (file intent : String) (filter? : Option String) (format : Report.Format)
      (backend : BackendOptions)
  | categories (file : String) (num : Nat) (filter? : Option String) (format : Report.Format)
      (backend : BackendOptions)
  | intents (language : Language) (format : Report.Format) (backend : BackendOptions)
  | libs (language : Language) (format : Report.Format) (backend : BackendOptions)
  | feedback (message : String) (module? : Option String) (backend : BackendOptions)
deriving DecidableEq, Repr

structure Invocation where
  command : Command
  logLevel? : Option String
  verbose : Bool
  quiet : Bool
deriving DecidableEq, Repr

namespace Given

/-- The value of an argument that has to be there. -/
def required (given : Given) (argument : Argument) : Except Refusal String :=
  match given.value? argument with
  | some value => .ok value
  | none => .error .missingArgument

def number? (given : Given) (argument : Argument) : Option Nat :=
  (given.value? argument).bind Number.whole?

def format (given : Given) : Report.Format :=
  ((given.value? .format).bind fun name => formatNames.lookup name).getD .human

def backend (given : Given) : BackendOptions :=
  ⟨given.value? .server, given.value? .proxy, given.number? .timeout⟩

def language (given : Given) : Except Refusal Language := do
  match Language.ofName? (← given.required .language) with
  | some language => return language
  | none => .error .invalidValue

end Given

/-- The command of a subcommand with what was given for it. -/
def Command.ofGiven (given : Given) : Subcommand → Except Refusal Command
  | .classify => do return .classify (← given.required .file) given.format
  | .context => .ok (.context (given.valuesOf .files) given.format given.backend)
  | .scan => do
      return .scan (← given.required .directory) given.format
        ((given.number? .maxDepth).getD 20) ((given.number? .maxFiles).getD 10000)
        (given.has .hidden)
  | .suggest => do
      return .suggest (← given.required .file) (← given.required .intent) (given.value? .filter)
        given.format given.backend
  | .categories => do
      return .categories (← given.required .file) ((given.number? .num).getD 5)
        (given.value? .filter) given.format given.backend
  | .intents => do return .intents (← given.language) given.format given.backend
  | .libs => do return .libs (← given.language) given.format given.backend
  | .feedback => do
      return .feedback (← given.required .message) (given.value? .module) given.backend

/-- The invocation that the arguments after the program's name stand for. What comes after the
name of the subcommand is judged first, and as a whole. -/
def parse (arguments : List String) : Except Refusal Invocation := do
  let split ← readTop .start arguments
  match split.command? with
  | some (subcommand, later) =>
      let within ← readWithin subcommand later
      let command ← Command.ofGiven within subcommand
      let settled ← split.before.settle .top
      let before ← settled.given.checked
      return ⟨command, (within.value? .logLevel).or (before.value? .logLevel),
        before.has .verbose || within.has .verbose, before.has .quiet || within.has .quiet⟩
  | none =>
      let settled ← split.before.settle .top
      .error (if settled.given = [] then .nothingGiven else .missingCommand)

end LibraryScout.CommandLine
