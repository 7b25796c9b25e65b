import LibraryScout.Proofs.Program.Service

/-!
Contract: the choice of a document, and what a command for a context depends on.

Owns:
- `Choice`, which document an assembler extracts from, and when it extracts from none;
- `chosen?`, the choice from a list of documents of which the first is the active one;
- that two commands for a context which choose the same document end alike with the same service.

Does not own: what the service answers.
-/

namespace LibraryScout.Program

open LibraryScout.Assembly LibraryScout.Backend LibraryScout.CommandLine LibraryScout.Source

/-! ## The choice of an assembler -/

/-- Which document an assembler extracts from. -/
structure Choice {σ : Type} (assembler : Assembler σ) (active? : Option Document)
    (visible : List Document) : Prop where
  /-- There is no document if and only if none was handed in. -/
  noDocument : ∀ state, (assembler.extractActive active? visible state).value = .ok .noDocument ↔
    active? = none ∧ visible = []
  /-- Then nothing is run. -/
  nothing : active? = none → visible = [] →
    assembler.extractActive active? visible = Run.pure (.ok .noDocument)
  /-- The active document is taken when its kind is supported or nothing else is visible. -/
  active : ∀ document, active? = some document →
    document.kind.isSupported = true ∨ visible = [] →
    assembler.extractActive active? visible =
      assembler.extractContext document.fileName document.text
  /-- In all other cases the first visible document is taken. -/
  firstVisible : ∀ first others, visible = first :: others →
    (∀ document ∈ active?, document.kind.isSupported = false) →
    assembler.extractActive active? visible = assembler.extractContext first.fileName first.text

section

variable {σ : Type} (assembler : Assembler σ)

/-- Handing in a document never comes to no document. -/
theorem extractContext_ne_noDocument (document : Document) (state : σ) :
    (assembler.extractContext document.fileName document.text state).value ≠ .ok .noDocument := by
  obtain ⟨answer, same⟩ := exists_extractContext_value assembler document state
  rw [same]
  intro noDocument
  rcases outcomeWith_cases assembler.registry document answer with
    ⟨_, unsupported⟩ | ⟨_, ⟨failure, failed⟩ | ⟨extraction, extracted⟩⟩
  · rw [unsupported] at noDocument
    cases noDocument
  · rw [failed] at noDocument
    cases noDocument
  · rw [extracted] at noDocument
    cases noDocument

theorem selected?_eq_none {active? : Option Document} {visible : List Document} :
    Assembler.selected? active? visible = none ↔ active? = none ∧ visible = [] := by
  unfold Assembler.selected?
  cases active? with
  | none => simp
  | some document =>
      dsimp only
      split
      · simp
      · cases visible <;> simp

theorem selected?_alone (document : Document) :
    Assembler.selected? (some document) [] = some document := by
  unfold Assembler.selected?
  dsimp only
  split <;> rfl

theorem choice (active? : Option Document) (visible : List Document) :
    Choice assembler active? visible := by
  constructor
  case noDocument =>
    intro state
    rw [← selected?_eq_none, Assembler.extractActive]
    cases selected : Assembler.selected? active? visible with
    | none => exact ⟨fun _ => rfl, fun _ => rfl⟩
    | some document =>
        refine ⟨fun noDocument => ?_, nofun⟩
        exact absurd noDocument (extractContext_ne_noDocument assembler document state)
  case nothing =>
    rintro rfl rfl
    rfl
  case active =>
    rintro document rfl (supported | rfl)
    · rw [Assembler.extractActive, Assembler.selected?, if_pos supported]
    · rw [Assembler.extractActive, selected?_alone]
  case firstVisible =>
    rintro first others rfl unsupported
    cases active? with
    | none => rfl
    | some document =>
        have notSupported : ¬ document.kind.isSupported = true := by
          rw [unsupported document rfl]
          decide
        rw [Assembler.extractActive, Assembler.selected?, if_neg notSupported]
        rfl

end

/-! ## The choice from a list -/

/-- The first document, unless it is unsupported and there is a second one. -/
def chosen? : List Document → Option Document
  | [] => none
  | [only] => some only
  | first :: second :: _ => if first.kind.isSupported then some first else some second

theorem selectedOf_eq (documents : List Document) : selectedOf documents = chosen? documents := by
  unfold selectedOf Assembler.selected?
  match documents with
  | [] => rfl
  | [only] =>
      dsimp only [List.head?, List.tail]
      split <;> rfl
  | first :: second :: others =>
      dsimp only [List.head?, List.tail, chosen?]
      rfl

theorem chosen?_take_two (documents : List Document) :
    chosen? (documents.take 2) = chosen? documents := by
  match documents with
  | [] => rfl
  | [_] => rfl
  | _ :: _ :: _ => rfl

theorem chosen?_of_supported {document : Document} (supported : document.kind.isSupported = true)
    (others : List Document) : chosen? (document :: others) = some document := by
  cases others with
  | nil => rfl
  | cons second later => exact if_pos supported

theorem chosen?_of_unsupported {document : Document}
    (unsupported : document.kind.isSupported = false) (next : Document) (others : List Document) :
    chosen? (document :: next :: others) = some next := by
  rw [chosen?, unsupported]
  rfl

/-! ## Asking a service when it is needed -/

/-- What a resolver that connects when it is needed comes to. -/
theorem lateResolver_value (options : BackendOptions) (language : Language)
    (packages : List String) (world : World) :
    (lateResolver options language packages world).value =
      match (connect options world).value with
      | .error reason => .error (.configuration reason)
      | .ok client => (client.modules language packages world.network).value := by
  unfold lateResolver
  rw [Run.bind_apply]
  cases (connect options world).value with
  | error reason => rfl
  | ok client =>
      dsimp only
      rw [World.withNetwork_apply, connect_network]

/-- The answer to a call, if there is one. -/
def lateAnswer (options : BackendOptions) (world : World) : Option Call → Answer
  | some call => (lateResolver options call.language call.packages world).value
  | none => .ok []

/-- How a command for a context ends when the call of its document gets an answer. -/
def chosenEnding (format : Report.Format) (document? : Option Document) (answer : Answer) :
    Ending :=
  match selectedOutcomeWith .defaults document? answer with
  | .ok outcome => endingOf format outcome
  | .error _ => .failed

theorem extractContext_value {files : List String} {documents : List Document} {world : World}
    (read : documents? world.files files = some documents) (format : Report.Format)
    (options : BackendOptions) :
    (extractContext files format options world).value =
      chosenEnding format (chosen? documents)
        (lateAnswer options world (selectedRequest? .defaults (chosen? documents))) := by
  obtain ⟨value, state⟩ := readDocuments_apply files world
  rw [read] at value
  have assembled : ((⟨.defaults, lateResolver options⟩ : Assembler World).extractActive
        documents.head? documents.tail world).value =
      selectedOutcomeWith .defaults (chosen? documents)
        (lateAnswer options world (selectedRequest? .defaults (chosen? documents))) := by
    rw [← selectedOf_eq]
    cases asks : selectedRequest? .defaults (selectedOf documents) with
    | none =>
        exact (extractActive_of_silent (⟨.defaults, lateResolver options⟩ : Assembler World) asks
          (.ok []) world).1
    | some call =>
        exact (extractActive_of_asking (⟨.defaults, lateResolver options⟩ : Assembler World) asks
          world).1
  unfold extractContext chosenEnding
  rw [Run.bind_apply, value, state]
  dsimp only
  rw [Run.bind_apply, assembled]
  cases selectedOutcomeWith .defaults (chosen? documents)
      (lateAnswer options world (selectedRequest? .defaults (chosen? documents))) with
  | ok outcome => rfl
  | error failure => rfl

/-- A command for a context has the exit code for unsupported files if and only if no document is
chosen or the chosen one is of no supported kind. -/
theorem chosenEnding_exitCode (format : Report.Format) (document? : Option Document)
    (answer : Answer) :
    (chosenEnding format document? answer).exitCode = 2 ↔
      document? = none ∨ ∃ document, document? = some document ∧
        document.kind.isSupported = false := by
  unfold chosenEnding
  cases document? with
  | none => exact ⟨fun _ => .inl rfl, fun _ => rfl⟩
  | some document =>
      rw [selectedOutcomeWith]
      simp only [reduceCtorEq, false_or, Option.some.injEq, exists_eq_left']
      cases supported : document.kind.isSupported with
      | false =>
          rw [outcomeWith_of_unsupported supported]
          exact ⟨fun _ => rfl, fun _ => rfl⟩
      | true =>
          rcases outcomeWith_of_supported supported answer with
            ⟨failure, failed⟩ | ⟨extraction, extracted⟩
          · rw [failed]
            simp [Ending.exitCode]
          · rw [extracted]
            simp [endingOf, Ending.exitCode]

/-! ## Runs for a context -/

/-- A run of the program for the context of files that can all be read. -/
structure ContextRun where
  invocation : Invocation
  files : List String
  format : Report.Format
  options : BackendOptions
  world : World
  documents : List Document
  isContext : invocation.command = .context files format options
  readable : documents? world.files files = some documents

namespace ContextRun

def ran (run : ContextRun) : Ran World Ending :=
  execute run.invocation run.world

theorem ran_value (run : ContextRun) :
    run.ran.value = chosenEnding run.format (chosen? run.documents)
      (lateAnswer run.options run.world
        (selectedRequest? .defaults (chosen? run.documents))) := by
  have value := extractContext_value run.readable run.format run.options
  rw [ran, execute, run.isContext]
  exact value

/-- Two runs come to the same client, or fail to come to one for the same reason, and their networks
are alike. -/
structure SameService (first second : ContextRun) : Prop where
  client : (connect first.options first.world).value =
    (connect second.options second.world).value
  network : first.world.network = second.world.network

theorem lateAnswer_of_sameService {first second : ContextRun} (same : SameService first second)
    (call? : Option Call) :
    lateAnswer first.options first.world call? = lateAnswer second.options second.world call? := by
  cases call? with
  | none => rfl
  | some call =>
      rw [lateAnswer, lateAnswer, lateResolver_value, lateResolver_value, same.client,
        same.network]

/-- Two runs have the same exit code and print the same. -/
def EndAlike (first second : ContextRun) : Prop :=
  first.ran.value.exitCode = second.ran.value.exitCode ∧
    first.ran.value.output = second.ran.value.output

/-- With the same service, runs that choose the same document end alike. -/
theorem endAlike_of_chosen? {first second : ContextRun} (same : SameService first second)
    (sameFormat : first.format = second.format)
    (sameChoice : chosen? first.documents = chosen? second.documents) :
    EndAlike first second := by
  have sameEnding : first.ran.value = second.ran.value := by
    rw [ran_value, ran_value, sameFormat, sameChoice, lateAnswer_of_sameService same]
  exact ⟨congrArg Ending.exitCode sameEnding, congrArg Ending.output sameEnding⟩

/-- What two runs for a context do not depend on. -/
structure Independence (first second : ContextRun) : Prop where
  /-- Files after the second one. -/
  later : first.documents.take 2 = second.documents.take 2 → EndAlike first second
  /-- The text of an unsupported first file, if there is a second one. -/
  firstText : ∀ document text next others otherOthers, document.kind.isSupported = false →
    first.documents = document :: next :: others →
    second.documents = { document with text } :: next :: otherOthers →
    EndAlike first second
  /-- All files but a supported first one. -/
  allButFirst : ∀ document others otherOthers, document.kind.isSupported = true →
    first.documents = document :: others → second.documents = document :: otherOthers →
    EndAlike first second

theorem independence {first second : ContextRun} (same : SameService first second)
    (sameFormat : first.format = second.format) : Independence first second := by
  constructor
  case later =>
    intro sameTwo
    refine endAlike_of_chosen? same sameFormat ?_
    rw [← chosen?_take_two first.documents, sameTwo, chosen?_take_two]
  case firstText =>
    intro document text next others otherOthers unsupported firstRead secondRead
    -- the kind of a document is a matter of its name, so the other text is of the same kind
    have stillUnsupported : ({ document with text } : Document).kind.isSupported = false :=
      unsupported
    refine endAlike_of_chosen? same sameFormat ?_
    rw [firstRead, secondRead, chosen?_of_unsupported unsupported,
      chosen?_of_unsupported stillUnsupported]
  case allButFirst =>
    intro document others otherOthers supported firstRead secondRead
    refine endAlike_of_chosen? same sameFormat ?_
    rw [firstRead, secondRead, chosen?_of_supported supported, chosen?_of_supported supported]

end ContextRun

/-- An assembler chooses one document, and a command for a context of files that can be read depends
on nothing else: its exit code is that for unsupported files just when the chosen document is
missing or unsupported, and with the same service it takes no notice of any other file. -/
theorem choice_account :
    (∀ {σ : Type} (assembler : Assembler σ) (active? : Option Document) (visible : List Document),
      Choice assembler active? visible) ∧
    (∀ run : ContextRun, run.ran.value.exitCode = 2 ↔
      chosen? run.documents = none ∨
        ∃ document, chosen? run.documents = some document ∧ document.kind.isSupported = false) ∧
    ∀ first second : ContextRun, ContextRun.SameService first second →
      first.format = second.format → ContextRun.Independence first second := by
  refine ⟨choice, fun run => ?_, fun first second => ContextRun.independence⟩
  rw [run.ran_value]
  exact chosenEnding_exitCode run.format (chosen? run.documents) _

/-- Notes before a Java source whose package the service maps. -/
theorem choice_account_of_changed_notes :
    let serving (notes : String) : World :=
      ⟨[("COMPASS_SERVER_URL", "http://127.0.0.1:8080"), ("COMPASS_USER_KEY", "key")],
        ⟨⟨(Files.Node.emptyDirectory.put ["notes.md"] (.file notes.toUTF8)).put
          ["A.java"] (.file "import a.b.C;".toUTF8), []⟩, 0, fun _ => "first"⟩,
        ⟨some "127.0.0.1:8080", [.answer ⟨200, "", "[\"m\"]".toUTF8.data.toList, true⟩], []⟩⟩
    let invocation : Invocation :=
      ⟨.context ["/notes.md", "/A.java"] .json ⟨none, none, none⟩, none, false, false⟩
    let before := execute invocation (serving "old")
    let after := execute invocation (serving "import a.b.C;")
    before.value.exitCode = after.value.exitCode ∧ before.value.output = after.value.output ∧
      after.value.exitCode ≠ 2 := by
  intro serving invocation before after
  have isContext : invocation.command =
      .context ["/notes.md", "/A.java"] .json ⟨none, none, none⟩ := rfl
  let run (notes : String)
      (readable : documents? (serving notes).files ["/notes.md", "/A.java"] =
        some [⟨"/notes.md", notes⟩, ⟨"/A.java", "import a.b.C;"⟩]) : ContextRun :=
    ⟨invocation, _, .json, ⟨none, none, none⟩, serving notes, _, isContext, readable⟩
  let first := run "old" (by decide +kernel)
  let second := run "import a.b.C;" (by decide +kernel)
  have connected : ∀ notes ∈ ["old", "import a.b.C;"],
      (connect ⟨none, none, none⟩ (serving notes)).value.toOption =
        some ⟨"http://127.0.0.1:8080", some "key", none, 10⟩ := by
    decide +kernel
  have sameClient : (connect first.options first.world).value =
      (connect second.options second.world).value := by
    rw [eq_ok_of_toOption (connected "old" (by simp)),
      eq_ok_of_toOption (connected "import a.b.C;" (by simp))]
  have supported : (⟨"/A.java", "import a.b.C;"⟩ : Document).kind.isSupported = true := by
    decide +kernel
  have unsupported : (⟨"/notes.md", "old"⟩ : Document).kind.isSupported = false := by
    decide +kernel
  obtain ⟨_, exitCode, independent⟩ := choice_account
  obtain ⟨sameCode, sameOutput⟩ := (independent first second ⟨sameClient, rfl⟩ rfl).firstText
    ⟨"/notes.md", "old"⟩ "import a.b.C;" ⟨"/A.java", "import a.b.C;"⟩ [] [] unsupported rfl rfl
  refine ⟨sameCode, sameOutput, fun two => ?_⟩
  have chosen : chosen? second.documents = some ⟨"/A.java", "import a.b.C;"⟩ :=
    chosen?_of_unsupported unsupported _ []
  rcases (exitCode second).1 two with none | ⟨document, isChosen, stillUnsupported⟩
  · rw [chosen] at none
    cases none
  · obtain rfl := Option.some.inj (chosen.symm.trans isChosen)
    rw [supported] at stillUnsupported
    cases stillUnsupported

end LibraryScout.Program
