import LibraryScout.Program.Setup
import LibraryScout.Scan.Directory

/-!
Contract: what each command does.

Every command ends in one of three ways, and prints a result only when it does not fail: a command
that fails has reported an error and prints nothing.
-/

namespace LibraryScout.Program

open LibraryScout.CommandLine LibraryScout.Source

inductive Ending where
  /-- The command was carried out, and may have a result to print. -/
  | done (printed? : Option String)
  | failed
  /-- The input is of no kind that the command can use. -/
  | unsupported (printed : String)
deriving DecidableEq, Repr

namespace Ending

def exitCode : Ending → Nat
  | done _ => 0
  | failed => 1
  | unsupported _ => 2

def printed? : Ending → Option String
  | done printed? => printed?
  | failed => none
  | unsupported printed => some printed

end Ending

/-! ## Reports of failures -/

/-- Reports an error of the program and ends. -/
def fail (message : String) : Run World Ending := do
  Run.report (Log.Event.error .program message)
  return .failed

/-- Reports that packages could not be mapped. -/
def resolutionEvent (failure : Assembly.Failure) : Log.Event :=
  (Log.Event.error .program failure.message).withText "language" failure.language.name

/-! ## Documents -/

/-- The document in a file; one that cannot be read is reported. -/
def readDocument (path : String) : Run World (Option Assembly.Document) := do
  let world ← Run.read
  match world.files.readText path with
  | .ok text => return some ⟨path, text⟩
  | .error fault =>
      Run.report (Log.Event.error .program ("Failed to read " ++ path ++ ": " ++ fault.message))
      return none

/-- The documents in files, unless one cannot be read; later ones are not looked at then. -/
def readDocuments : List String → Run World (Option (List Assembly.Document))
  | [] => return some []
  | path :: others => do
      match ← readDocument path with
      | none => return none
      | some document =>
          match ← readDocuments others with
          | none => return none
          | some documents => return some (document :: documents)

/-- How a command ends that was asked for a context. -/
def endingOf (format : Report.Format) (outcome : Assembly.Outcome) : Ending :=
  match outcome with
  | .extracted _ => .done (some (Report.outcome format outcome))
  | _ => .unsupported (Report.outcome format outcome)

/-- The context of the document in a file, or how the command ends without one. -/
def contextOfFile (client : Backend.Client) (path : String) (format : Report.Format) :
    Run World (Except Ending Extraction) := do
  match ← readDocument path with
  | none => return .error .failed
  | some document =>
      let assembler : Assembly.Assembler World := ⟨Registry.defaults, resolverOf client⟩
      match ← assembler.extractContext document.fileName document.text with
      | .ok (.extracted extraction) => return .ok extraction
      | .ok outcome => return .error (endingOf format outcome)
      | .error failure =>
          Run.report (resolutionEvent failure)
          return .error .failed

/-- A command that needs a client. -/
def withClient (options : BackendOptions) (command : Backend.Client → Run World Ending) :
    Run World Ending := do
  match ← connect options with
  | .error reason => fail reason
  | .ok client => command client

/-! ## Commands -/

def classifyFile (file : String) (format : Report.Format) : Ending :=
  let kind := classify file
  let printed := Report.classification format ⟨file, kind⟩
  if kind.isSupported then .done (some printed) else .unsupported printed

def extractContext (files : List String) (format : Report.Format) (options : BackendOptions) :
    Run World Ending := do
  match ← readDocuments files with
  | none => return .failed
  | some documents =>
      let assembler : Assembly.Assembler World := ⟨Registry.defaults, lateResolver options⟩
      match ← assembler.extractActive documents.head? documents.tail with
      | .ok outcome => return endingOf format outcome
      | .error failure =>
          Run.report (resolutionEvent failure)
          return .failed

def scanDirectory (directory : String) (format : Report.Format) (maxDepth maxFiles : Nat)
    (hidden : Bool) : Run World Ending := do
  let world ← Run.read
  let limits : Scan.Limits :=
    { Scan.Limits.usual with reach := ⟨maxDepth, hidden⟩, maxFiles }
  let (outcome, events) := Scan.scan world.files Registry.defaults limits directory
  Run.reportAll events
  match outcome with
  | .ok result => return .done (some (Report.scan format result))
  | .error failure => fail ("Scan failed: " ++ failure.message)

/-- Adds snippets to suggestions where the service has some; without them the suggestions stay as
they are. -/
def withSnippets (client : Backend.Client) (language : Language)
    (response : Backend.SearchResponse) : Run World Backend.SearchResponse := do
  match ← World.withNetwork (client.snippets language) with
  | .ok snippets => return response.attachSnippets snippets
  | .error error =>
      Run.report (Log.Event.warn .program
        ("Could not load snippets from server: " ++ error.message))
      return response

def searchEvent (intent : String) : Log.Event :=
  (Log.Event.info .program "Searching for suggestions").withText "intent" intent

def suggest (file intent : String) (filter? : Option String) (format : Report.Format)
    (client : Backend.Client) : Run World Ending := do
  match ← contextOfFile client file format with
  | .error ending => return ending
  | .ok extraction =>
      Run.report (searchEvent intent)
      match ← World.withNetwork
          (client.search extraction.language extraction.context intent filter?) with
      | .error error => fail ("Search failed: " ++ error.message)
      | .ok found =>
          let response ← withSnippets client extraction.language found
          return .done (some (Report.suggestions format
            ⟨extraction.language, intent, extraction.context.identifiers, response,
              Backend.SuggestionIndex.ofResponse response⟩))

def categories (file : String) (num : Nat) (filter? : Option String) (format : Report.Format)
    (client : Backend.Client) : Run World Ending := do
  match ← contextOfFile client file format with
  | .error ending => return ending
  | .ok extraction =>
      match ← World.withNetwork
          (client.categories extraction.language num extraction.context filter?) with
      | .error error => fail ("Category lookup failed: " ++ error.message)
      | .ok found => return .done (some (Report.categories format found))

def intents (language : Language) (format : Report.Format) (client : Backend.Client) :
    Run World Ending := do
  match ← World.withNetwork (client.intents language) with
  | .error error => fail ("Failed to download intents: " ++ error.message)
  | .ok found => return .done (some (Report.intents format language found))

def libraries (language : Language) (format : Report.Format) (client : Backend.Client) :
    Run World Ending := do
  match ← World.withNetwork (client.libraries language) with
  | .error error => fail ("Failed to download libraries: " ++ error.message)
  | .ok found => return .done (some (Report.libraries format language found))

/-- What is sent as feedback. -/
def feedbackBody (message : String) (module? : Option String) : Json :=
  .object ([("message", .string message)] ++
    module?.toList.map fun name => ("module", .string name))

def sendFeedback (message : String) (module? : Option String) (client : Backend.Client) :
    Run World Ending := do
  match ← World.withNetwork (client.feedback (feedbackBody message module?)) with
  | .error error => fail ("Failed to send feedback: " ++ error.message)
  | .ok _ => return .done none

/-- Carries out a command. -/
def carryOut : Command → Run World Ending
  | .classify file format => return classifyFile file format
  | .context files format options => extractContext files format options
  | .scan directory format maxDepth maxFiles hidden =>
      scanDirectory directory format maxDepth maxFiles hidden
  | .suggest file intent filter? format options =>
      withClient options (suggest file intent filter? format)
  | .categories file num filter? format options =>
      withClient options (categories file num filter? format)
  | .intents language format options => withClient options (intents language format)
  | .libs language format options => withClient options (libraries language format)
  | .feedback message module? options => withClient options (sendFeedback message module?)

end LibraryScout.Program
