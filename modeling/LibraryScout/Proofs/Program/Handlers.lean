import LibraryScout.Program.Handlers
import LibraryScout.Proofs.Program.Endings

/-!
Contract: handlers and endings say the same.

Owns:
- `Prints`, what it is for a handler to come to the ending of a run: the same events, the same
  world, the exit code of the ending as its answer, and what the ending prints as all that was
  printed;
- that every command's handler prints what carrying out the command ends with;
- `ConsoleAccount`, how a run at a console ends.

The proofs follow the steps of the handlers. A step over the world is the same on both sides, and
the one step that may print in the middle, `contextForFile`, is opened once.
-/

namespace LibraryScout.Program

open LibraryScout.CommandLine LibraryScout.Source

/-- At any console a handler does what a run over the world does, prints what its ending says and
answers with the exit code of it. -/
def Prints (handler : Run Console Nat) (command : Run World Ending) : Prop :=
  ∀ console, handler console =
    let ran := command console.world
    ⟨ran.value.exitCode, ran.events, ⟨ran.state, console.output ++ ran.value.output⟩⟩

namespace Ending

@[simp] theorem exitCode_failed : failed.exitCode = exitFailure := rfl

@[simp] theorem output_failed : failed.output = "" := rfl

@[simp] theorem exitCode_unsupported (printed : String) :
    (unsupported printed).exitCode = exitUnsupported := rfl

@[simp] theorem output_unsupported (printed : String) :
    (unsupported printed).output = printed ++ "\n" := rfl

end Ending

namespace Prints

variable {α : Type}

/-! ## Steps over the world -/

/-- A step over the world is taken on both sides. -/
theorem step (first : Run World α) {next : α → Run Console Nat} {other : α → Run World Ending}
    (each : ∀ value, Prints (next value) (other value)) :
    Prints (Console.withWorld first >>= next) (first >>= other) := by
  intro console
  rw [Run.bind_apply, Console.withWorld_apply, each]
  rfl

/-- A report is made on both sides. -/
theorem report (event : Log.Event) {next : Run Console Nat} {other : Run World Ending}
    (rest : Prints next other) :
    Prints (Run.report event >>= fun _ => next) (Run.report event >>= fun _ => other) := by
  intro console
  rw [Run.bind_apply, Run.report_apply, rest]
  rfl

/-! ## Ends -/

/-- Where nothing is printed any more, there is only the exit code. -/
theorem silent {ending : Ending} {code : Nat} (nothing : ending.printed? = none)
    (answers : ending.exitCode = code) : Prints (pure code) (pure ending) := by
  intro console
  rw [Run.pure_apply, Run.pure_apply]
  dsimp only
  rw [Ending.output, nothing, String.append_empty, answers]

/-- Where something is printed, it is all that is printed. -/
theorem emit {ending : Ending} {text : String} {code : Nat} (prints : ending.printed? = some text)
    (answers : ending.exitCode = code) :
    Prints (do Console.emit text; return code) (pure ending) := by
  intro console
  rw [Run.bind_apply, Console.emit_apply, Run.pure_apply, Run.pure_apply]
  dsimp only
  rw [Ending.output, prints, answers]
  rfl

theorem emitAndEnd (text : String) :
    Prints (Program.emitAndEnd text) (pure (.done (some text))) :=
  emit rfl rfl

theorem giveUp (message : String) : Prints (Program.giveUp message) (fail message) :=
  report _ (silent rfl rfl)

/-- An outcome is printed, with guidance or without. -/
theorem endingOf (format : Report.Format) (outcome : Assembly.Outcome) :
    Prints (do
      Console.emit (Report.outcome format outcome)
      match outcome with
      | .extracted _ => return exitOk
      | _ => return exitUnsupported) (pure (Program.endingOf format outcome)) := by
  cases outcome with
  | extracted extraction => exact emit rfl rfl
  | unsupported fileName => exact emit rfl rfl
  | noDocument => exact emit rfl rfl

/-! ## Steps that may end a run -/

/-- A command that connects first prints what it prints with each client. -/
theorem withClient (options : BackendOptions) {handler : Backend.Client → Run Console Nat}
    {command : Backend.Client → Run World Ending}
    (each : ∀ client, Prints (handler client) (command client)) :
    Prints (handleWithClient options handler) (Program.withClient options command) := by
  intro console
  unfold handleWithClient buildClient Program.withClient
  simp only [Run.bind_apply, Console.withWorld_apply]
  cases (connect options console.world).value with
  | ok client => simp [each client _]
  | error reason => simp [fail]

/-- The context of a file, with an exit code and what was printed in place of an ending. -/
theorem contextForFile_apply (client : Backend.Client) (path : String) (format : Report.Format)
    (console : Console) :
    contextForFile client path format console =
      let ran := contextOfFile client path format console.world
      match ran.value with
      | .ok extraction => ⟨.ok extraction, ran.events, ⟨ran.state, console.output⟩⟩
      | .error ending =>
          ⟨.error ending.exitCode, ran.events, ⟨ran.state, console.output ++ ending.output⟩⟩ := by
  unfold contextForFile contextOfFile
  simp only [Run.bind_apply, Console.withWorld_apply]
  cases (readDocument path console.world).value with
  | none => simp
  | some document =>
      simp only [Run.bind_apply, Console.withWorld_apply]
      cases (Assembly.Assembler.extractContext
        (⟨Registry.defaults, resolverOf client⟩ : Assembly.Assembler World) document.fileName
        document.text (readDocument path console.world).state).value with
      | error failure => simp
      | ok outcome => cases outcome <;> simp [Program.endingOf]

/-- A command that takes the context of a file prints what it prints with each extraction. -/
theorem contextForFile (client : Backend.Client) (path : String) (format : Report.Format)
    {next : Extraction → Run Console Nat} {other : Extraction → Run World Ending}
    (each : ∀ extraction, Prints (next extraction) (other extraction)) :
    Prints (do
        match ← Program.contextForFile client path format with
        | .error code => return code
        | .ok extraction => next extraction)
      (do
        match ← contextOfFile client path format with
        | .error ending => return ending
        | .ok extraction => other extraction) := by
  intro console
  simp only [Run.bind_apply, contextForFile_apply]
  cases (contextOfFile client path format console.world).value with
  | ok extraction => simp [each extraction _]
  | error ending => simp

/-- A question to the service ends in an error or in what is printed of its answer. -/
theorem printAnswer {α : Type} (ask : Run Http.Network (Except Backend.Error α)) (failed : String)
    (text : α → String) {other : Except Backend.Error α → Run World Ending}
    (without : ∀ error, other (.error error) = fail (failed ++ error.message))
    (answered : ∀ found, other (.ok found) = pure (.done (some (text found)))) :
    Prints (Program.printAnswer ask failed text) (World.withNetwork ask >>= other) := by
  refine step _ fun answer => ?_
  cases answer with
  | error error =>
      rw [without]
      exact giveUp _
  | ok found =>
      rw [answered]
      exact emitAndEnd _

/-! ## Commands -/

theorem handleClassify (file : String) (format : Report.Format) :
    Prints (Program.handleClassify file format) (pure (classifyFile file format)) := by
  unfold Program.handleClassify classifyFile
  dsimp only
  split
  · exact emit rfl rfl
  · exact emit rfl rfl

theorem handleContext (files : List String) (format : Report.Format) (options : BackendOptions) :
    Prints (Program.handleContext files format options)
      (extractContext files format options) := by
  refine step _ fun documents? => ?_
  cases documents? with
  | none => exact silent rfl rfl
  | some documents =>
      refine step _ fun assembled => ?_
      cases assembled with
      | error failure => exact report _ (silent rfl rfl)
      | ok outcome => exact endingOf format outcome

theorem handleScan (directory : String) (format : Report.Format) (maxDepth maxFiles : Nat)
    (hidden : Bool) :
    Prints (Program.handleScan directory format maxDepth maxFiles hidden)
      (scanDirectory directory format maxDepth maxFiles hidden) := by
  unfold Program.handleScan scanDirectory
  refine step _ fun world => ?_
  dsimp only
  -- the scan is not looked into: what it reports is a step, and its outcome decides the rest
  generalize Scan.scan world.files .defaults
    { Scan.Limits.usual with reach := ⟨maxDepth, hidden⟩, maxFiles } directory = scanned
  obtain ⟨outcome, events⟩ := scanned
  refine step _ fun _ => ?_
  cases outcome with
  | ok result => exact emitAndEnd _
  | error failure => exact giveUp _

theorem handleSuggest (file intent : String) (filter? : Option String) (format : Report.Format)
    (client : Backend.Client) :
    Prints (Program.handleSuggest file intent filter? format client)
      (suggest file intent filter? format client) := by
  refine contextForFile client file format fun extraction => step _ fun _ => step _ fun found => ?_
  cases found with
  | error error => exact giveUp _
  | ok found => exact step _ fun response => emitAndEnd _

theorem handleCategories (file : String) (num : Nat) (filter? : Option String)
    (format : Report.Format) (client : Backend.Client) :
    Prints (Program.handleCategories file num filter? format client)
      (categories file num filter? format client) :=
  contextForFile client file format fun _ => printAnswer _ _ _ (fun _ => rfl) fun _ => rfl

theorem handleIntents (language : Language) (format : Report.Format) (client : Backend.Client) :
    Prints (Program.handleIntents language format client) (intents language format client) :=
  printAnswer _ _ _ (fun _ => rfl) fun _ => rfl

theorem handleLibs (language : Language) (format : Report.Format) (client : Backend.Client) :
    Prints (Program.handleLibs language format client) (libraries language format client) :=
  printAnswer _ _ _ (fun _ => rfl) fun _ => rfl

theorem handleFeedback (message : String) (module? : Option String) (client : Backend.Client) :
    Prints (Program.handleFeedback message module? client)
      (sendFeedback message module? client) := by
  refine step _ fun sent => ?_
  cases sent with
  | error error => exact giveUp _
  | ok _ => exact silent rfl rfl

/-- The handler of a command prints what carrying out the command ends with. -/
theorem handle (command : Command) : Prints (Program.handle command) (carryOut command) := by
  cases command with
  | classify file format => exact handleClassify file format
  | context files format options => exact handleContext files format options
  | scan directory format maxDepth maxFiles hidden =>
      exact handleScan directory format maxDepth maxFiles hidden
  | suggest file intent filter? format options =>
      exact withClient options (handleSuggest file intent filter? format)
  | categories file num filter? format options =>
      exact withClient options (handleCategories file num filter? format)
  | intents language format options => exact withClient options (handleIntents language format)
  | libs language format options => exact withClient options (handleLibs language format)
  | feedback message module? options =>
      exact withClient options (handleFeedback message module?)

/-- A run at a console prints what executing the invocation ends with. -/
theorem runAtConsole (invocation : Invocation) :
    Prints (Program.runAtConsole invocation) (execute invocation) :=
  step _ fun _ => handle invocation.command

end Prints

/-! ## The account -/

/-- How a run at a console ends, by its exit code. -/
structure ConsoleAccount (before : Console) (command : Command) (ran : Ran Console Nat) :
    Prop where
  exitCode : ran.value ≤ exitUnsupported
  /-- The command has been carried out: its result is printed, and its input is supported. -/
  done : ran.value = exitOk → ¬ Unsupported before.world.files command ∧
    ∃ result, Comes before.world command result ∧
      ran.state.output = before.output ++ result.output (formatOf command)
  /-- The command has failed: an error has been raised, and nothing is printed. -/
  failed : ran.value = exitFailure → ran.state.output = before.output ∧ Reported ran.events
  /-- The input is unsupported: what is printed says so. -/
  unsupported : ran.value = exitUnsupported → Unsupported before.world.files command ∧
    ∃ result text, Comes before.world command result ∧ result.isUsable = false ∧
      result.text? (formatOf command) = some text ∧
      ran.state.output = before.output ++ (text ++ "\n")

/-- What a run at a console prints, and the code it answers with, are those of one ending: its
result is printed as a whole and it answers 0, guidance is printed and it answers 2, or nothing is
printed, an error is reported and it answers 1. -/
theorem runAtConsole_account (invocation : Invocation) (console : Console) :
    ConsoleAccount console invocation.command (runAtConsole invocation console) := by
  have settled : Settled console.world invocation.command (execute invocation console.world) :=
    .bind (settled_carryOut console.world invocation.command)
  have account := settled.account
  rw [Prints.runAtConsole invocation console]
  constructor
  case exitCode => exact account.exitCode
  case done =>
    intro code
    obtain ⟨supported, result, comes, printed⟩ := account.done code
    exact ⟨supported, result, comes, congrArg (console.output ++ ·) printed⟩
  case failed =>
    intro code
    obtain ⟨nothing, reported⟩ := account.failed code
    exact ⟨(congrArg (console.output ++ ·) nothing).trans String.append_empty, reported⟩
  case unsupported =>
    intro code
    obtain ⟨unsupported, result, text, comes, useless, formatted, printed⟩ :=
      account.unsupported code
    exact ⟨unsupported, result, text, comes, useless, formatted,
      congrArg (console.output ++ ·) printed⟩

end LibraryScout.Program
