import LibraryScout.Proofs.Program.Choice

/-!
Contract: how runs of the program end.

Owns:
- `Result`, what a command may come to, how it is printed and which results stand for input that is
  of no use;
- `Comes`, which command comes to which result, by the steps that lead there;
- that a run comes to a result and prints just that, or has reported an error and prints nothing;
- that a result stands for useless input just when the input of the command is unsupported.

Does not own: the wording of results and errors, and what the steps come to.
-/

namespace LibraryScout.Program

open LibraryScout.Assembly LibraryScout.Backend LibraryScout.CommandLine LibraryScout.Source

/-! ## Results -/

inductive Result where
  | classification (found : Report.Classification)
  | outcome (reached : Outcome)
  | scan (found : Scan.Result)
  | suggestions (report : Report.Suggestions)
  | categories (nearest : Categories)
  | intents (language : Language) (known : List Json)
  | libraries (language : Language) (known : Libraries)
  /-- A message has been sent, and there is nothing to say about it. -/
  | sent

namespace Result

/-- The formatted result. -/
def text? (format : Report.Format) : Result → Option String
  | classification found => some (Report.classification format found)
  | outcome reached => some (Report.outcome format reached)
  | scan found => some (Report.scan format found)
  | suggestions report => some (Report.suggestions format report)
  | categories nearest => some (Report.categories format nearest)
  | intents language known => some (Report.intents format language known)
  | libraries language known => some (Report.libraries format language known)
  | sent => none

/-- What is printed of a result: its text and a line feed, if it has a text. -/
def output (format : Report.Format) (result : Result) : String :=
  match result.text? format with
  | some text => text ++ "\n"
  | none => ""

/-- Only a classification and an outcome can say that the input is of no use. -/
def isUsable : Result → Bool
  | classification found => found.kind.isSupported
  | outcome reached => reached.extraction?.isSome
  | _ => true

def ending (format : Report.Format) (result : Result) : Ending :=
  match result.text? format with
  | some text => if result.isUsable then .done (some text) else .unsupported text
  | none => .done none

theorem ending_of_usable {result : Result} (usable : result.isUsable = true)
    (format : Report.Format) : result.ending format = .done (result.text? format) := by
  unfold ending
  cases result.text? format with
  | none => rfl
  | some text => exact if_pos usable

theorem ending_of_unusable {result : Result} (unusable : result.isUsable = false)
    (format : Report.Format) :
    ∃ text, result.text? format = some text ∧ result.ending format = .unsupported text := by
  unfold ending
  cases found : result.text? format with
  | none =>
      cases result with
      | sent => cases unusable
      | _ => cases found
  | some text =>
      rw [unusable]
      exact ⟨text, rfl, rfl⟩

theorem ending_outcome (format : Report.Format) (reached : Outcome) :
    (outcome reached).ending format = endingOf format reached := by
  cases reached with
  | extracted extraction => rfl
  | unsupported fileName => rfl
  | noDocument => rfl

end Result

/-- The format that a command asks for; a message prints nothing, so that any would do. -/
def formatOf : Command → Report.Format
  | .classify _ format | .context _ format _ | .scan _ format .. | .suggest _ _ _ format _
  | .categories _ _ _ format _ | .intents _ format _ | .libs _ format _ => format
  | .feedback .. => .human

/-! ## The way to a result -/

/-- A run comes to a value and leaves a world. -/
structure Leads {α : Type} (run : Run World α) (before : World) (value : α) (after : World) :
    Prop where
  value : (run before).value = value
  state : (run before).state = after

/-- A file can be read, and a client's assembler comes to an outcome for its document. -/
def ComesToOutcome (client : Client) (file : String) (before : World) (outcome : Outcome)
    (after : World) : Prop :=
  ∃ document, document? before.files file = some document ∧
    Leads ((⟨.defaults, resolverOf client⟩ : Assembler World).extractContext document.fileName
      document.text) before (.ok outcome) after

/-- The file whose context a command needs before it asks the service. -/
def source? : Command → Option (String × BackendOptions)
  | .suggest file _ _ _ options | .categories file _ _ _ options => some (file, options)
  | _ => none

/-- Which command comes to which result in a world: each step starts in the world that the one
before has left. -/
inductive Comes (world : World) : Command → Result → Prop where
  | classify (file : String) (format : Report.Format) :
      Comes world (.classify file format) (.classification ⟨file, Source.classify file⟩)
  | context {files : List String} {format : Report.Format} {options : BackendOptions}
      {documents : List Document} {outcome : Outcome} {after : World}
      (read : documents? world.files files = some documents)
      (assembled : Leads ((⟨.defaults, lateResolver options⟩ : Assembler World).extractActive
        documents.head? documents.tail) world (.ok outcome) after) :
      Comes world (.context files format options) (.outcome outcome)
  | scan {directory : String} {format : Report.Format} {maxDepth maxFiles : Nat} {hidden : Bool}
      {result : Scan.Result}
      (scanned : (Scan.scan world.files .defaults
        { Scan.Limits.usual with reach := ⟨maxDepth, hidden⟩, maxFiles } directory).1 =
          .ok result) :
      Comes world (.scan directory format maxDepth maxFiles hidden) (.scan result)
  /-- Without an extraction the outcome is all there is. -/
  | outcome {command : Command} {file : String} {options : BackendOptions} {client : Client}
      {outcome : Outcome} {connected after : World}
      (source : source? command = some (file, options))
      (connects : Leads (connect options) world (.ok client) connected)
      (extracts : ComesToOutcome client file connected outcome after)
      (nothing : outcome.extraction? = none) :
      Comes world command (.outcome outcome)
  | suggest {file intent : String} {filter? : Option String} {format : Report.Format}
      {options : BackendOptions} {client : Client} {extraction : Extraction}
      {found response : SearchResponse} {connected extracted searched after : World}
      (connects : Leads (connect options) world (.ok client) connected)
      (extracts : ComesToOutcome client file connected (.extracted extraction) extracted)
      (searches : Leads (World.withNetwork
        (client.search extraction.language extraction.context intent filter?)) extracted
        (.ok found) searched)
      (enriches : Leads (withSnippets client extraction.language found) searched response after) :
      Comes world (.suggest file intent filter? format options)
        (.suggestions ⟨extraction.language, intent, extraction.context.identifiers, response,
          SuggestionIndex.ofResponse response⟩)
  | categories {file : String} {num : Nat} {filter? : Option String} {format : Report.Format}
      {options : BackendOptions} {client : Client} {extraction : Extraction}
      {nearest : Categories} {connected extracted after : World}
      (connects : Leads (connect options) world (.ok client) connected)
      (extracts : ComesToOutcome client file connected (.extracted extraction) extracted)
      (looksUp : Leads (World.withNetwork
        (client.categories extraction.language num extraction.context filter?)) extracted
        (.ok nearest) after) :
      Comes world (.categories file num filter? format options) (.categories nearest)
  | intents {language : Language} {format : Report.Format} {options : BackendOptions}
      {client : Client} {known : List Json} {connected after : World}
      (connects : Leads (connect options) world (.ok client) connected)
      (downloads : Leads (World.withNetwork (client.intents language)) connected (.ok known)
        after) :
      Comes world (.intents language format options) (.intents language known)
  | libs {language : Language} {format : Report.Format} {options : BackendOptions}
      {client : Client} {known : Libraries} {connected after : World}
      (connects : Leads (connect options) world (.ok client) connected)
      (downloads : Leads (World.withNetwork (client.libraries language)) connected (.ok known)
        after) :
      Comes world (.libs language format options) (.libraries language known)
  | feedback {message : String} {module? : Option String} {options : BackendOptions}
      {client : Client} {connected after : World}
      (connects : Leads (connect options) world (.ok client) connected)
      (sends : Leads (World.withNetwork (client.feedback (feedbackBody message module?))) connected
        (.ok ()) after) :
      Comes world (.feedback message module? options) .sent

/-! ## Unsupported input -/

/-- The input of a command is of no supported kind, or there is no document in it. -/
def Unsupported (store : Files.Store) : Command → Prop
  | .classify file _ | .suggest file .. | .categories file .. =>
      (Source.classify file).isSupported = false
  | .context files _ _ => ∃ documents, documents? store files = some documents ∧
      (documents = [] ∨
        ∃ document, chosen? documents = some document ∧ document.kind.isSupported = false)
  | _ => False

theorem isSome_extraction?_of_outcomeWith {document : Document} {answer : Answer}
    {outcome : Outcome} (settled : outcomeWith .defaults document answer = .ok outcome) :
    outcome.extraction?.isSome = document.kind.isSupported := by
  cases supported : document.kind.isSupported with
  | false =>
      rw [outcomeWith_of_unsupported supported] at settled
      obtain rfl := Except.ok.inj settled
      rfl
  | true =>
      rcases outcomeWith_of_supported supported answer with
        ⟨failure, failed⟩ | ⟨extraction, extracted⟩
      · rw [failed] at settled
        cases settled
      · rw [extracted] at settled
        obtain rfl := Except.ok.inj settled
        rfl

/-- The outcome for a file has an extraction if and only if the file is of a supported kind. -/
theorem ComesToOutcome.isSome_extraction? {client : Client} {file : String} {before after : World}
    {outcome : Outcome} (extracts : ComesToOutcome client file before outcome after) :
    outcome.extraction?.isSome = (Source.classify file).isSupported := by
  obtain ⟨document, found, value, _⟩ := extracts
  obtain ⟨answer, same⟩ := exists_extractContext_value
    (⟨.defaults, resolverOf client⟩ : Assembler World) document before
  have sameName : document.fileName = file := by
    obtain ⟨text, _, rfl⟩ := Option.map_eq_some_iff.1 found
    rfl
  rw [value] at same
  rw [← sameName, ← Document.kind]
  exact isSome_extraction?_of_outcomeWith same.symm

theorem chosen?_eq_none {documents : List Document} :
    chosen? documents = none ↔ documents = [] := by
  rw [← selectedOf_eq, selectedOf, selected?_eq_none]
  cases documents with
  | nil => exact ⟨fun _ => rfl, fun _ => ⟨rfl, rfl⟩⟩
  | cons first others => simp

/-- The outcome for documents has an extraction if and only if there are some and the chosen one is
of a supported kind. -/
theorem isSome_extraction?_of_extractActive {assembler : Assembler World}
    (defaults : assembler.registry = .defaults) {documents : List Document} {world : World}
    {outcome : Outcome}
    (value : (assembler.extractActive documents.head? documents.tail world).value = .ok outcome) :
    outcome.extraction?.isSome = false ↔ documents = [] ∨
      ∃ document, chosen? documents = some document ∧ document.kind.isSupported = false := by
  obtain ⟨answer, same⟩ :=
    exists_extractActive_value assembler documents.head? documents.tail world
  rw [value, defaults, ← selectedOf, selectedOf_eq] at same
  rw [← chosen?_eq_none]
  cases chosen : chosen? documents with
  | none =>
      rw [chosen] at same
      obtain rfl := Except.ok.inj same
      exact ⟨fun _ => .inl rfl, fun _ => rfl⟩
  | some document =>
      rw [chosen] at same
      rw [isSome_extraction?_of_outcomeWith same.symm]
      simp

theorem unsupported_of_source? {command : Command} {file : String} {options : BackendOptions}
    (source : source? command = some (file, options)) (store : Files.Store) :
    Unsupported store command ↔ (Source.classify file).isSupported = false := by
  cases command with
  | suggest | categories =>
      obtain ⟨rfl, rfl⟩ := Prod.mk.inj (Option.some.inj source)
      exact Iff.rfl
  | _ => cases source

/-- A result is of no use if and only if the input of the command is unsupported. -/
theorem Comes.isUsable_eq_false {world : World} {command : Command} {result : Result}
    (comes : Comes world command result) :
    result.isUsable = false ↔ Unsupported world.files command := by
  cases comes with
  | classify file format => exact Iff.rfl
  | context read assembled =>
      refine (isSome_extraction?_of_extractActive rfl assembled.value).trans ⟨?_, ?_⟩
      · exact fun useless => ⟨_, read, useless⟩
      · rintro ⟨documents, readAgain, useless⟩
        obtain rfl := Option.some.inj (read.symm.trans readAgain)
        exact useless
  | outcome source connects extracts nothing =>
      rw [unsupported_of_source? source, ← extracts.isSome_extraction?]
      exact Iff.rfl
  | suggest connects extracts | categories connects extracts =>
      refine ⟨nofun, fun unsupported => ?_⟩
      cases extracts.isSome_extraction?.trans unsupported
  | scan | intents | libs | feedback => exact ⟨nofun, nofun⟩

/-! ## Runs -/

/-- An error has been raised. -/
def Reported (events : List Log.Event) : Prop :=
  ∃ event ∈ events, event.severity = .error

theorem Reported.append_left {events : List Log.Event} (reported : Reported events)
    (later : List Log.Event) : Reported (events ++ later) := by
  obtain ⟨event, member, isError⟩ := reported
  exact ⟨event, List.mem_append_left later member, isError⟩

theorem Reported.append_right {events : List Log.Event} (reported : Reported events)
    (earlier : List Log.Event) : Reported (earlier ++ events) := by
  obtain ⟨event, member, isError⟩ := reported
  exact ⟨event, List.mem_append_right earlier member, isError⟩

/-- A run has reported an error and failed, or has come to a result and ends with it. -/
inductive Settled (world : World) (command : Command) (ran : Ran World Ending) : Prop where
  | failed (value : ran.value = .failed) (reported : Reported ran.events)
  | came {result : Result} (comes : Comes world command result)
      (value : ran.value = result.ending (formatOf command))

section

variable {α : Type} {world before : World} {command : Command}

/-- What a run has raised before does not matter, for events are only added. -/
theorem Settled.bind {first : Run World α} {next : α → Run World Ending}
    (rest : Settled world command (next (first before).value (first before).state)) :
    Settled world command ((first >>= next) before) := by
  cases rest with
  | failed value reported => exact .failed value (reported.append_right _)
  | came comes value => exact .came comes value

/-- A run whose first step has raised an error need only fail. -/
theorem Settled.of_reported {first : Run World α} {next : α → Run World Ending}
    (reported : Reported (first before).events)
    (failed : (next (first before).value (first before).state).value = .failed) :
    Settled world command ((first >>= next) before) :=
  .failed failed (reported.append_left _)

theorem Settled.fail (message : String) : Settled world command (Program.fail message before) :=
  .failed rfl ⟨_, List.mem_cons_self, rfl⟩

/-- A step gives a value or a reason not to go on: the run has to settle after either of them. -/
theorem Settled.attempt {ε : Type} {step : Run World (Except ε α)}
    {next : Except ε α → Run World Ending}
    (without : ∀ reason after, Settled world command (next (.error reason) after))
    (each : ∀ value after, Leads step before (.ok value) after →
      Settled world command (next (.ok value) after)) :
    Settled world command ((step >>= next) before) := by
  refine .bind ?_
  cases came : (step before).value with
  | error reason => exact without reason _
  | ok value => exact each value _ ⟨came, rfl⟩

end

/-! ## Documents -/

theorem readDocument_reported {path : String} {world : World}
    (unreadable : document? world.files path = none) :
    Reported (readDocument path world).events := by
  unfold document? at unreadable
  unfold readDocument
  simp only [Run.bind_apply, Run.read_apply]
  cases read : world.files.readText path with
  | ok text =>
      rw [read] at unreadable
      cases unreadable
  | error fault => exact ⟨_, List.mem_cons_self, rfl⟩

/-- The first file that cannot be read is reported. -/
theorem readDocuments_reported {files : List String} {world : World}
    (unreadable : documents? world.files files = none) :
    Reported (readDocuments files world).events := by
  induction files with
  | nil => cases unreadable
  | cons path others inductionHypothesis =>
      obtain ⟨value, state⟩ := readDocument_apply path world
      rw [readDocuments, Run.bind_apply, value, state]
      cases found : document? world.files path with
      | none => exact (readDocument_reported found).append_left _
      | some document =>
          have othersUnreadable : documents? world.files others = none := by
            rw [documents?, List.mapM_cons, found] at unreadable
            rw [documents?]
            cases read : others.mapM (document? world.files) with
            | none => rfl
            | some documents =>
                rw [read] at unreadable
                cases unreadable
          exact ((inductionHypothesis othersUnreadable).append_left _).append_right _

/-- What comes of the context of a file for a command. -/
inductive ContextCame (client : Client) (file : String) (format : Report.Format) (before : World)
    (ran : Ran World (Except Ending Extraction)) : Prop where
  | failed (value : ran.value = .error .failed) (reported : Reported ran.events)
  | nothing {outcome : Outcome}
      (extracts : ComesToOutcome client file before outcome ran.state)
      (nothing : outcome.extraction? = none)
      (value : ran.value = .error (endingOf format outcome))
  | extracted {extraction : Extraction}
      (extracts : ComesToOutcome client file before (.extracted extraction) ran.state)
      (value : ran.value = .ok extraction)

theorem contextCame (client : Client) (file : String) (format : Report.Format) (before : World) :
    ContextCame client file format before (contextOfFile client file format before) := by
  obtain ⟨value, state⟩ := readDocument_apply file before
  unfold contextOfFile
  cases found : document? before.files file with
  | none =>
      have reported := readDocument_reported found
      rw [Run.bind_apply, value, found]
      exact .failed rfl (reported.append_left _)
  | some document =>
      rw [Run.bind_apply, value, state, found]
      dsimp only
      rw [Run.bind_apply]
      generalize extraction : (⟨.defaults, resolverOf client⟩ : Assembler World).extractContext
        document.fileName document.text before = ran
      have extracts {outcome : Outcome} (came : ran.value = .ok outcome) :
          ComesToOutcome client file before outcome ran.state :=
        ⟨document, found, (congrArg Ran.value extraction).trans came, congrArg Ran.state extraction⟩
      cases came : ran.value with
      | error failure =>
          refine .failed rfl ⟨resolutionEvent failure, ?_, rfl⟩
          simp
      | ok outcome =>
          cases outcome with
          | extracted extraction => exact .extracted (extracts came) rfl
          | unsupported fileName => exact .nothing (extracts came) rfl rfl
          | noDocument => exact .nothing (extracts came) rfl rfl

section

variable {world : World} {command : Command} {options : BackendOptions}

/-- A command that connects first need only be settled for the client and the world after that. -/
theorem settled_withClient {run : Client → Run World Ending}
    (each : ∀ client connected, Leads (connect options) world (.ok client) connected →
      Settled world command (run client connected)) :
    Settled world command (withClient options run world) := by
  unfold withClient
  exact .attempt (fun reason _ => .fail reason) each

/-- A command that takes the context of a file need only be settled for an extraction. -/
theorem settled_contextOfFile {file : String} {client : Client} {connected : World}
    (source : source? command = some (file, options))
    (connects : Leads (connect options) world (.ok client) connected)
    {next : Extraction → Run World Ending}
    (each : ∀ extraction after, ComesToOutcome client file connected (.extracted extraction) after →
      Settled world command (next extraction after)) :
    Settled world command ((do
      match ← contextOfFile client file (formatOf command) with
      | .error ending => return ending
      | .ok extraction => next extraction) connected) := by
  cases contextCame client file (formatOf command) connected with
  | failed value reported =>
      refine .of_reported reported ?_
      rw [value]
      rfl
  | nothing extracts nothing value =>
      refine .bind ?_
      rw [value]
      refine .came (.outcome source connects extracts nothing) ?_
      exact (Result.ending_outcome _ _).symm
  | extracted extracts value =>
      refine .bind ?_
      rw [value]
      exact each _ _ extracts

end

/-! ## Commands -/

theorem settled_context (world : World) (files : List String) (format : Report.Format)
    (options : BackendOptions) :
    Settled world (.context files format options) (extractContext files format options world) := by
  obtain ⟨value, state⟩ := readDocuments_apply files world
  unfold extractContext
  cases read : documents? world.files files with
  | none =>
      refine .of_reported (readDocuments_reported read) ?_
      rw [value, read]
      rfl
  | some documents =>
      refine .bind ?_
      rw [value, state, read]
      dsimp only
      cases assembled : ((⟨.defaults, lateResolver options⟩ : Assembler World).extractActive
        documents.head? documents.tail world).value with
      | ok outcome =>
          refine .bind ?_
          rw [assembled]
          exact .came (.context read ⟨assembled, rfl⟩) (Result.ending_outcome format outcome).symm
      | error failure =>
          refine .bind ?_
          rw [assembled]
          exact .failed rfl ⟨resolutionEvent failure, List.mem_cons_self, rfl⟩

theorem settled_scan (world : World) (directory : String) (format : Report.Format)
    (maxDepth maxFiles : Nat) (hidden : Bool) :
    Settled world (.scan directory format maxDepth maxFiles hidden)
      (scanDirectory directory format maxDepth maxFiles hidden world) := by
  unfold scanDirectory
  refine .bind ?_
  rw [Run.read_apply]
  dsimp only
  refine .bind ?_
  cases scanned : (Scan.scan world.files .defaults
      { Scan.Limits.usual with reach := ⟨maxDepth, hidden⟩, maxFiles } directory).1 with
  | ok result => exact .came (.scan scanned) rfl
  | error failure => exact .fail _

theorem settled_suggest (world : World) (file intent : String) (filter? : Option String)
    (format : Report.Format) (options : BackendOptions) :
    Settled world (.suggest file intent filter? format options)
      (withClient options (suggest file intent filter? format) world) := by
  refine settled_withClient fun client connected connects => ?_
  refine settled_contextOfFile rfl connects fun extraction extracted extracts => .bind ?_
  refine .attempt (fun _ _ => .fail _) fun found searched searches => ?_
  exact .bind (.came (.suggest connects extracts searches ⟨rfl, rfl⟩) rfl)

theorem settled_categories (world : World) (file : String) (num : Nat) (filter? : Option String)
    (format : Report.Format) (options : BackendOptions) :
    Settled world (.categories file num filter? format options)
      (withClient options (categories file num filter? format) world) := by
  refine settled_withClient fun client connected connects => ?_
  refine settled_contextOfFile rfl connects fun extraction extracted extracts => ?_
  refine .attempt (fun _ _ => .fail _) fun nearest _ looksUp => ?_
  exact .came (.categories connects extracts looksUp) rfl

/-- Every command settles. -/
theorem settled_carryOut (world : World) (command : Command) :
    Settled world command (carryOut command world) := by
  cases command with
  | classify file format => exact .came (.classify file format) rfl
  | context files format options => exact settled_context world files format options
  | scan directory format maxDepth maxFiles hidden =>
      exact settled_scan world directory format maxDepth maxFiles hidden
  | suggest file intent filter? format options =>
      exact settled_suggest world file intent filter? format options
  | categories file num filter? format options =>
      exact settled_categories world file num filter? format options
  | intents language format options =>
      refine settled_withClient fun client connected connects => ?_
      refine .attempt (fun _ _ => .fail _) fun known after downloads => ?_
      exact .came (.intents connects downloads) rfl
  | libs language format options =>
      refine settled_withClient fun client connected connects => ?_
      refine .attempt (fun _ _ => .fail _) fun known after downloads => ?_
      exact .came (.libs connects downloads) rfl
  | feedback message module? options =>
      refine settled_withClient fun client connected connects => ?_
      refine .attempt (fun _ _ => .fail _) fun sent after sends => ?_
      exact .came (.feedback connects sends) rfl

/-! ## The account -/

/-- How a run ends, by its exit code. -/
structure Account (world : World) (command : Command) (ran : Ran World Ending) : Prop where
  exitCode : ran.value.exitCode ≤ 2
  /-- The command has been carried out: its result is printed, and its input is supported. -/
  done : ran.value.exitCode = 0 → ¬ Unsupported world.files command ∧
    ∃ result, Comes world command result ∧ ran.value.output = result.output (formatOf command)
  /-- The command has failed: an error has been raised, and nothing is printed. -/
  failed : ran.value.exitCode = 1 → ran.value.output = "" ∧ Reported ran.events
  /-- The input is unsupported: what is printed says so. -/
  unsupported : ran.value.exitCode = 2 → Unsupported world.files command ∧
    ∃ result text, Comes world command result ∧ result.isUsable = false ∧
      result.text? (formatOf command) = some text ∧ ran.value.output = text ++ "\n"

theorem Settled.account {world : World} {command : Command} {ran : Ran World Ending}
    (settled : Settled world command ran) : Account world command ran := by
  cases settled with
  | failed value reported =>
      constructor <;> rw [value]
      case exitCode => exact Nat.le_succ 1
      case done => exact nofun
      case failed => exact fun _ => ⟨rfl, reported⟩
      case unsupported => exact nofun
  | @came result comes value =>
      have useless := comes.isUsable_eq_false
      cases usable : result.isUsable with
      | true =>
          rw [result.ending_of_usable usable] at value
          rw [usable] at useless
          constructor <;> rw [value]
          case exitCode => exact Nat.zero_le 2
          case done =>
            refine fun _ => ⟨fun unsupported => ?_, result, comes, rfl⟩
            cases useless.2 unsupported
          case failed => exact nofun
          case unsupported => exact nofun
      | false =>
          obtain ⟨text, formatted, ending⟩ := result.ending_of_unusable usable (formatOf command)
          rw [ending] at value
          constructor <;> rw [value]
          case exitCode => exact Nat.le_refl 2
          case done => exact nofun
          case failed => exact nofun
          case unsupported =>
            exact fun _ => ⟨useless.1 usable, result, text, comes, usable, formatted, rfl⟩

/-- Every run of the program ends with its result printed as a whole, or with guidance printed
because its input is unsupported, or with nothing printed and an error raised. -/
theorem execute_account (invocation : Invocation) (world : World) :
    Account world invocation.command (execute invocation world) :=
  (Settled.bind (settled_carryOut world invocation.command)).account

end LibraryScout.Program
