import LibraryScout.Program.Execution

/-!
Contract: the program at a console.

Owns:
- `Console`, the world together with what has been printed;
- a handler for each command, which prints when it has something to print, and answers with the
  exit code of the program.

An ending says at once how a command ends and what it prints. Here the two are apart: a handler may
print and then fail, or answer with any code. That it does not is a theorem and not a matter of
types.
-/

namespace LibraryScout.Program

open LibraryScout.CommandLine LibraryScout.Source

/-! ## The console -/

structure Console where
  world : World
  /-- All that has been printed. -/
  output : String

namespace Console

variable {α : Type}

/-- A run over the world, which prints nothing. -/
def withWorld (run : Run World α) : Run Console α :=
  Run.within Console.world (fun world console => { console with world }) run

/-- Prints a line. -/
def emit (line : String) : Run Console Unit := do
  let console ← Run.read
  Run.write { console with output := console.output ++ (line ++ "\n") }

@[simp] theorem withWorld_apply (run : Run World α) (console : Console) :
    withWorld run console =
      ⟨(run console.world).value, (run console.world).events,
        ⟨(run console.world).state, console.output⟩⟩ := rfl

@[simp] theorem emit_apply (line : String) (console : Console) :
    emit line console = ⟨(), [], ⟨console.world, console.output ++ (line ++ "\n")⟩⟩ := rfl

end Console

/-! ## Exit codes -/

def exitOk : Nat :=
  0

def exitFailure : Nat :=
  1

def exitUnsupported : Nat :=
  2

/-- Prints a result of use and ends. -/
def emitAndEnd (text : String) : Run Console Nat := do
  Console.emit text
  return exitOk

/-- Reports an error of the program and gives up. -/
def giveUp (message : String) : Run Console Nat := do
  Run.report (Log.Event.error .program message)
  return exitFailure

/-! ## Steps on the way -/

/-- The client for the options; without one an error has been reported. -/
def buildClient (options : BackendOptions) : Run Console (Option Backend.Client) := do
  match ← Console.withWorld (connect options) with
  | .ok client => return some client
  | .error reason =>
      Run.report (Log.Event.error .program reason)
      return none

/-- A handler that needs a client. -/
def handleWithClient (options : BackendOptions) (handler : Backend.Client → Run Console Nat) :
    Run Console Nat := do
  match ← buildClient options with
  | none => return exitFailure
  | some client => handler client

/-- The context of the document in a file. Without one the reason has been reported or printed, and
there is an exit code. -/
def contextForFile (client : Backend.Client) (path : String) (format : Report.Format) :
    Run Console (Except Nat Extraction) := do
  match ← Console.withWorld (readDocument path) with
  | none => return .error exitFailure
  | some document =>
      let assembler : Assembly.Assembler World := ⟨Registry.defaults, resolverOf client⟩
      match ← Console.withWorld
          (assembler.extractContext document.fileName document.text) with
      | .ok (.extracted extraction) => return .ok extraction
      | .ok outcome =>
          Console.emit (Report.outcome format outcome)
          return .error exitUnsupported
      | .error failure =>
          Run.report (resolutionEvent failure)
          return .error exitFailure

/-! ## Handlers -/

def handleClassify (file : String) (format : Report.Format) : Run Console Nat := do
  let kind := classify file
  Console.emit (Report.classification format ⟨file, kind⟩)
  if kind.isSupported then return exitOk else return exitUnsupported

def handleContext (files : List String) (format : Report.Format) (options : BackendOptions) :
    Run Console Nat := do
  match ← Console.withWorld (readDocuments files) with
  | none => return exitFailure
  | some documents =>
      let assembler : Assembly.Assembler World := ⟨Registry.defaults, lateResolver options⟩
      match ← Console.withWorld
          (assembler.extractActive documents.head? documents.tail) with
      | .error failure =>
          Run.report (resolutionEvent failure)
          return exitFailure
      | .ok outcome =>
          Console.emit (Report.outcome format outcome)
          match outcome with
          | .extracted _ => return exitOk
          | _ => return exitUnsupported

def handleScan (directory : String) (format : Report.Format) (maxDepth maxFiles : Nat)
    (hidden : Bool) : Run Console Nat := do
  let world ← Console.withWorld Run.read
  let limits : Scan.Limits :=
    { Scan.Limits.usual with reach := ⟨maxDepth, hidden⟩, maxFiles }
  let (outcome, events) := Scan.scan world.files Registry.defaults limits directory
  Console.withWorld (Run.reportAll events)
  match outcome with
  | .ok result => emitAndEnd (Report.scan format result)
  | .error failure => giveUp ("Scan failed: " ++ failure.message)

def handleSuggest (file intent : String) (filter? : Option String) (format : Report.Format)
    (client : Backend.Client) : Run Console Nat := do
  match ← contextForFile client file format with
  | .error code => return code
  | .ok extraction =>
      Console.withWorld (Run.report (searchEvent intent))
      match ← Console.withWorld (World.withNetwork
          (client.search extraction.language extraction.context intent filter?)) with
      | .error error => giveUp ("Search failed: " ++ error.message)
      | .ok found =>
          let response ← Console.withWorld (withSnippets client extraction.language found)
          emitAndEnd (Report.suggestions format
            ⟨extraction.language, intent, extraction.context.identifiers, response,
              Backend.SuggestionIndex.ofResponse response⟩)

/-- Asks the service and prints what it answers. -/
def printAnswer {α : Type} (ask : Run Http.Network (Except Backend.Error α)) (failed : String)
    (text : α → String) : Run Console Nat := do
  match ← Console.withWorld (World.withNetwork ask) with
  | .error error => giveUp (failed ++ error.message)
  | .ok found => emitAndEnd (text found)

def handleCategories (file : String) (num : Nat) (filter? : Option String)
    (format : Report.Format) (client : Backend.Client) : Run Console Nat := do
  match ← contextForFile client file format with
  | .error code => return code
  | .ok extraction =>
      printAnswer (client.categories extraction.language num extraction.context filter?)
        "Category lookup failed: " (Report.categories format)

def handleIntents (language : Language) (format : Report.Format) (client : Backend.Client) :
    Run Console Nat :=
  printAnswer (client.intents language) "Failed to download intents: "
    (Report.intents format language)

def handleLibs (language : Language) (format : Report.Format) (client : Backend.Client) :
    Run Console Nat :=
  printAnswer (client.libraries language) "Failed to download libraries: "
    (Report.libraries format language)

def handleFeedback (message : String) (module? : Option String) (client : Backend.Client) :
    Run Console Nat := do
  match ← Console.withWorld
      (World.withNetwork (client.feedback (feedbackBody message module?))) with
  | .error error => giveUp ("Failed to send feedback: " ++ error.message)
  | .ok _ => return exitOk

/-- Handles a command. -/
def handle : Command → Run Console Nat
  | .classify file format => handleClassify file format
  | .context files format options => handleContext files format options
  | .scan directory format maxDepth maxFiles hidden =>
      handleScan directory format maxDepth maxFiles hidden
  | .suggest file intent filter? format options =>
      handleWithClient options (handleSuggest file intent filter? format)
  | .categories file num filter? format options =>
      handleWithClient options (handleCategories file num filter? format)
  | .intents language format options => handleWithClient options (handleIntents language format)
  | .libs language format options => handleWithClient options (handleLibs language format)
  | .feedback message module? options =>
      handleWithClient options (handleFeedback message module?)

/-- A whole run of the program at a console. -/
def runAtConsole (invocation : Invocation) : Run Console Nat := do
  Console.withWorld (Run.report startEvent)
  handle invocation.command

end LibraryScout.Program
