import LibraryScout.Log.Shown
import LibraryScout.Program.Commands

/-!
Contract: one run of the program.

The options of a command line say how much is logged, and the command decides the rest: the exit
code, what is printed, and the events, of which the filter shows some.
-/

namespace LibraryScout.Program

open LibraryScout.CommandLine

/-- How a run logs, and what is said about its own settings for that. -/
structure Logging where
  options : Log.Options
  filter : Log.Filter
  notes : List String

/-- The level that a command line asks for, with the note on a name that is none. -/
def requestedLevel (invocation : Invocation) : Option Log.Severity × List String :=
  match invocation.logLevel? with
  | some name =>
      let (level, notes) := Log.parseLevel name
      (some level, notes)
  | none =>
      (if invocation.verbose then some .debug
        else if invocation.quiet then some .error
        else none, [])

def Logging.of (environment : Settings.Environment) (invocation : Invocation) : Logging :=
  let (level?, levelNotes) := requestedLevel invocation
  let (options, environmentNotes) :=
    Log.Options.forCommandLine environment level? invocation.verbose
  let (filter, filterNotes) := Log.Filter.forCommandLine environment options.level
  ⟨options, filter, levelNotes ++ environmentNotes ++ filterNotes⟩

/-- The events that are shown. -/
def Logging.shown (logging : Logging) (events : List Log.Event) : List Log.Event :=
  events.filter fun event => logging.filter.shows event.severity event.origin

/-- The first event of every run. -/
def startEvent : Log.Event :=
  ⟨.debug, .program, "code-compass v" ++ Settings.version ++ " starting", []⟩

/-- Carries out the command of an invocation. -/
def execute (invocation : Invocation) : Run World Ending := do
  Run.report startEvent
  carryOut invocation.command

/-- What is printed for an ending. -/
def Ending.output (ending : Ending) : String :=
  match ending.printed? with
  | some text => text ++ "\n"
  | none => ""

end LibraryScout.Program
