import LibraryScout.Program.Execution
import LibraryScout.Proofs.Assembly.Document

/-!
Contract: asking for a context without the service.

Owns:
- `documents?`, what reading files comes to, which depends on the files alone;
- `NeedsModules`, the one kind of document for which the service is asked;
- that a command for a context of any other document depends on nothing but its files, and changes
  nothing: whatever settings there are, they are not looked at.

Does not own: what happens when the service is asked.
-/

namespace LibraryScout.Program

open LibraryScout.Assembly LibraryScout.CommandLine LibraryScout.Source

/-! ## Reading files -/

def document? (store : Files.Store) (path : String) : Option Document :=
  (store.readText path).toOption.map fun text => ⟨path, text⟩

def documents? (store : Files.Store) (files : List String) : Option (List Document) :=
  files.mapM (document? store)

theorem readDocument_apply (path : String) (world : World) :
    (readDocument path world).value = document? world.files path ∧
      (readDocument path world).state = world := by
  unfold readDocument document?
  simp only [Run.bind_apply, Run.read_apply]
  cases world.files.readText path with
  | ok text => exact ⟨rfl, rfl⟩
  | error fault => exact ⟨rfl, rfl⟩

theorem readDocuments_apply (files : List String) (world : World) :
    (readDocuments files world).value = documents? world.files files ∧
      (readDocuments files world).state = world := by
  induction files with
  | nil => exact ⟨rfl, rfl⟩
  | cons path others inductionHypothesis =>
      obtain ⟨value, state⟩ := readDocument_apply path world
      obtain ⟨laterValue, laterState⟩ := inductionHypothesis
      rw [readDocuments, documents?, List.mapM_cons]
      simp only [Run.bind_apply, value, state]
      cases document? world.files path with
      | none => exact ⟨rfl, rfl⟩
      | some document =>
          simp only [Run.bind_apply, laterValue, laterState]
          rw [documents?]
          cases others.mapM (document? world.files) with
          | none => exact ⟨rfl, rfl⟩
          | some documents => exact ⟨rfl, rfl⟩

/-- A file that cannot be read leaves no documents at all. -/
theorem documents?_eq_none {store : Files.Store} {files : List String} {path : String}
    (member : path ∈ files) (unreadable : document? store path = none) :
    documents? store files = none := by
  induction files with
  | nil => exact absurd member List.not_mem_nil
  | cons first others inductionHypothesis =>
      rw [documents?, List.mapM_cons]
      rcases List.mem_cons.1 member with rfl | later
      · rw [unreadable]
        rfl
      · have noOthers := inductionHypothesis later
        rw [documents?] at noOthers
        rw [noOthers]
        cases document? store first with
        | none => rfl
        | some document => rfl

theorem documents?_congr {first second : Files.Store} {files : List String}
    (alike : ∀ path ∈ files, document? first path = document? second path) :
    documents? first files = documents? second files := by
  induction files with
  | nil => rfl
  | cons path others inductionHypothesis =>
      have othersAlike := inductionHypothesis fun other member =>
        alike other (List.mem_cons_of_mem path member)
      rw [documents?, documents?] at othersAlike
      rw [documents?, documents?, List.mapM_cons, List.mapM_cons, othersAlike,
        alike path List.mem_cons_self]

/-! ## Documents with an extractor -/

theorem get?_defaults_eq_none {kind : Kind} :
    Registry.defaults.get? kind = none ↔ kind.isSupported = false := by
  cases kind with
  | unsupported => exact ⟨fun _ => rfl, fun _ => rfl⟩
  | _ => exact ⟨fun missing => (by cases missing), fun unsupported => (by cases unsupported)⟩

theorem outcomeWith_of_unsupported {document : Document}
    (unsupported : document.kind.isSupported = false) (answer : Answer) :
    outcomeWith .defaults document answer = .ok (.unsupported document.fileName) := by
  rw [outcomeWith, get?_defaults_eq_none.2 unsupported]

theorem outcomeWith_of_supported {document : Document}
    (supported : document.kind.isSupported = true) (answer : Answer) :
    (∃ failure, outcomeWith .defaults document answer = .error failure) ∨
      ∃ extraction, outcomeWith .defaults document answer = .ok (.extracted extraction) := by
  rcases outcomeWith_cases .defaults document answer with ⟨missing, _⟩ | ⟨_, outcome⟩
  · rw [get?_defaults_eq_none.1 missing] at supported
    cases supported
  · exact outcome

/-! ## Documents for which the service is not asked -/

/-- A Java source with packages, whose modules only the service knows. -/
def NeedsModules (document : Document) : Prop :=
  document.kind = .java ∧ (Imports.Java.extract document.text).1.context.identifiers ≠ []

theorem request?_eq_none {document : Document} (noNeed : ¬ NeedsModules document) :
    request? .defaults document = none := by
  rw [request?]
  cases found : Registry.defaults.get? document.kind with
  | none => rfl
  | some extractor =>
      refine if_neg ?_
      intro ⟨java, packages⟩
      have isJava : extractor = .java := by
        rw [java] at found
        exact (Option.some.inj found).symm
      rw [isJava] at packages
      exact noNeed ⟨java, packages⟩

/-- The document of which the first file is the active one and the others are visible. -/
def selectedOf (documents : List Document) : Option Document :=
  Assembler.selected? documents.head? documents.tail

/-- How a command for a context ends as long as the service is not asked. -/
def endingWithoutService (format : Report.Format) : Option (List Document) → Ending
  | none => .failed
  | some documents =>
      match selectedOutcomeWith .defaults (selectedOf documents) (.ok []) with
      | .ok outcome => endingOf format outcome
      | .error _ => .failed

section

variable {files : List String} {world : World}

/-- A command for a context that has no need of the service changes nothing, and its ending is a
function of its files. -/
theorem extractContext_apply
    (noNeed : ∀ documents, documents? world.files files = some documents →
      ∀ document ∈ selectedOf documents, ¬ NeedsModules document)
    (format : Report.Format) (options : BackendOptions) :
    let ran := extractContext files format options world
    ran.value = endingWithoutService format (documents? world.files files) ∧
      ran.state = world := by
  obtain ⟨value, state⟩ := readDocuments_apply files world
  unfold extractContext
  simp only [Run.bind_apply, value, state]
  cases found : documents? world.files files with
  | none => exact ⟨rfl, rfl⟩
  | some documents =>
      have silent : selectedRequest? .defaults
          (Assembler.selected? documents.head? documents.tail) = none := by
        cases selected : Assembler.selected? documents.head? documents.tail with
        | none => rfl
        | some document => exact request?_eq_none (noNeed documents found document selected)
      obtain ⟨outcome, unchanged⟩ := extractActive_of_silent
        ⟨.defaults, lateResolver options⟩ silent (.ok []) world
      simp only [Run.bind_apply, outcome, unchanged, endingWithoutService, selectedOf]
      cases selectedOutcomeWith .defaults
          (Assembler.selected? documents.head? documents.tail) (.ok []) with
      | ok outcome => exact ⟨rfl, rfl⟩
      | error failure => exact ⟨rfl, rfl⟩

/-- The same for the whole run of the program. -/
theorem execute_context_apply {invocation : Invocation} {format : Report.Format}
    {options : BackendOptions} (isContext : invocation.command = .context files format options)
    (noNeed : ∀ documents, documents? world.files files = some documents →
      ∀ document ∈ selectedOf documents, ¬ NeedsModules document) :
    let ran := execute invocation world
    ran.value = endingWithoutService format (documents? world.files files) ∧
      ran.state = world := by
  unfold execute carryOut
  simp only [isContext, Run.bind_apply, Run.report_apply]
  exact extractContext_apply noNeed format options

end

/-- Two runs for a context of the same files, in the same format, end alike and print the same as
long as the selected document, if there is one, is no Java source with packages: settings, options
for the service, the service itself and all other files may differ. Neither run changes anything: no
request is sent, no file or directory is made or written. With a file that cannot be read both
fail. -/
theorem context_independent_of_service {files : List String} {format : Report.Format}
    {firstInvocation secondInvocation : Invocation} {firstOptions secondOptions : BackendOptions}
    {first second : World}
    (firstCommand : firstInvocation.command = .context files format firstOptions)
    (secondCommand : secondInvocation.command = .context files format secondOptions)
    (readAlike : ∀ path ∈ files,
      (first.files.readText path).toOption = (second.files.readText path).toOption)
    (noNeed : ∀ documents, documents? first.files files = some documents →
      ∀ document ∈ selectedOf documents, ¬ NeedsModules document) :
    let firstRun := execute firstInvocation first
    let secondRun := execute secondInvocation second
    firstRun.value.exitCode = secondRun.value.exitCode ∧
      firstRun.value.output = secondRun.value.output ∧
      firstRun.state = first ∧ secondRun.state = second ∧
      ((∃ path ∈ files, (first.files.readText path).toOption = none) →
        firstRun.value.exitCode = 1 ∧ firstRun.value.output = "") := by
  intro firstRun secondRun
  have sameDocuments : documents? first.files files = documents? second.files files :=
    documents?_congr fun path member => congrArg (Option.map _) (readAlike path member)
  obtain ⟨firstEnding, firstState⟩ := execute_context_apply firstCommand noNeed
  obtain ⟨secondEnding, secondState⟩ := execute_context_apply secondCommand
    fun documents found => noNeed documents (sameDocuments.trans found)
  have sameEnding : firstRun.value = secondRun.value := by
    rw [firstEnding, secondEnding, sameDocuments]
  refine ⟨by rw [sameEnding], by rw [sameEnding], firstState, secondState, ?_⟩
  intro ⟨path, member, unreadable⟩
  have noDocument : document? first.files path = none := by
    rw [document?, unreadable]
    rfl
  rw [firstEnding, documents?_eq_none member noDocument]
  exact ⟨rfl, rfl⟩

/-- A run without any settings and one with settings that no client can be built from, over files
that differ where no document stands. -/
theorem context_independent_of_broken_settings :
    let tree := (Files.Node.emptyDirectory.put ["notes.md"] (.file "import a.b.C;".toUTF8)).put
      ["a.js"] (.file "import x from 'y'".toUTF8)
    let files := ["/notes.md", "/a.js"]
    let first : World := ⟨[], ⟨⟨tree, []⟩, 0, fun _ => "first"⟩, .unreachable⟩
    let second : World := ⟨[("COMPASS_SERVER_URL", "nonsense"), ("HOME", "/home")],
      ⟨⟨tree.put ["home", ".config"] (.file (ByteArray.mk #[0xff])), []⟩, 0, fun _ => "second"⟩,
      ⟨some "127.0.0.1:80", [.close], []⟩⟩
    let bare : Invocation := ⟨.context files .json ⟨none, none, none⟩, none, false, false⟩
    let broken : Invocation :=
      ⟨.context files .json ⟨some "", some "::", some 0⟩, some "loud", true, false⟩
    (execute bare first).value.exitCode = (execute broken second).value.exitCode ∧
      (execute bare first).value.output = (execute broken second).value.output ∧
      (execute bare first).state = first ∧ (execute broken second).state = second := by
  intro tree files first second bare broken
  have readAlike : ∀ path ∈ files,
      (first.files.readText path).toOption = (second.files.readText path).toOption := by
    decide +kernel
  have found : documents? first.files files =
      some [⟨"/notes.md", "import a.b.C;"⟩, ⟨"/a.js", "import x from 'y'"⟩] := by
    decide +kernel
  have noNeed : ∀ documents, documents? first.files files = some documents →
      ∀ document ∈ selectedOf documents, ¬ NeedsModules document := by
    intro documents read document selected
    obtain rfl := Option.some.inj (found.symm.trans read)
    have isScript : selectedOf [⟨"/notes.md", "import a.b.C;"⟩, ⟨"/a.js", "import x from 'y'"⟩] =
        some ⟨"/a.js", "import x from 'y'"⟩ := by
      decide +kernel
    obtain rfl := Option.some.inj (isScript.symm.trans selected)
    have otherKind : (⟨"/a.js", "import x from 'y'"⟩ : Document).kind ≠ .java := by
      decide +kernel
    exact fun needs => otherKind needs.1
  have bareCommand : bare.command = .context files .json ⟨none, none, none⟩ := rfl
  have brokenCommand : broken.command = .context files .json ⟨some "", some "::", some 0⟩ := rfl
  obtain ⟨exitCode, output, firstState, secondState, _⟩ :=
    context_independent_of_service bareCommand brokenCommand readAlike noNeed
  exact ⟨exitCode, output, firstState, secondState⟩

end LibraryScout.Program
