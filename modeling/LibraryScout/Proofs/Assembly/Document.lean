import LibraryScout.Assembly.Script

/-!
Contract: one document and what it asks of its resolver.

Owns:
- `request?`, the one call that a document makes of its resolver, if it makes any;
- `outcomeWith`, the outcome of a document as a function of the answer to that call;
- that handing in a document is just that, whatever the resolver is: no call and a state left alone,
  or the one call and the state that it leaves;
- resolvers that keep the calls they get.

Does not own: which resolver answers, and how.
-/

namespace LibraryScout.Assembly

open LibraryScout.Source

abbrev Answer :=
  Except Backend.Error (List String)

/-- The call that asks for the modules of all packages of an extraction. -/
def Call.ofExtraction (extraction : Extraction) : Call :=
  ⟨extraction.language, extraction.context.identifiers⟩

/-! ## The call of a document -/

/-- A document makes a call when it is a Java source, has an extractor and has packages. -/
def request? (registry : Registry) (document : Document) : Option Call :=
  match registry.get? document.kind with
  | none => none
  | some extractor =>
      let extraction := (extractor.extract document.text).1
      if document.kind = .java ∧ extraction.context.identifiers ≠ [] then
        some (.ofExtraction extraction)
      else
        none

/-- What an answer makes of an extraction: modules take the place of its packages. -/
def answered (extraction : Extraction) : Answer → Except Failure Extraction
  | .ok modules => .ok { extraction with context := Context.unique modules }
  | .error error => .error ⟨extraction.language, extraction.context.identifiers.length, error⟩

/-- The outcome of a document whose call, if it makes one, gets an answer. -/
def outcomeWith (registry : Registry) (document : Document) (answer : Answer) :
    Except Failure Outcome :=
  match registry.get? document.kind with
  | none => .ok (.unsupported document.fileName)
  | some extractor =>
      let extraction := (extractor.extract document.text).1
      if document.kind = .java ∧ extraction.context.identifiers ≠ [] then
        (answered extraction answer).map Outcome.extracted
      else
        .ok (.extracted extraction)

/-- A document that makes no call has its outcome whatever the answer. -/
theorem outcomeWith_of_request?_eq_none {registry : Registry} {document : Document}
    (silent : request? registry document = none) (first second : Answer) :
    outcomeWith registry document first = outcomeWith registry document second := by
  unfold request? at silent
  unfold outcomeWith
  cases found : registry.get? document.kind with
  | none => rfl
  | some extractor =>
      rw [found] at silent
      by_cases asks : document.kind = .java ∧
          (extractor.extract document.text).1.context.identifiers ≠ []
      · simp [asks] at silent
      · simp only [if_neg asks]

/-- Only a call can fail, so a document with a failure has made one. -/
theorem request?_ne_none_of_outcomeWith {registry : Registry} {document : Document}
    {answer : Answer} {failure : Failure}
    (failed : outcomeWith registry document answer = .error failure) :
    request? registry document ≠ none := by
  unfold outcomeWith at failed
  unfold request?
  cases found : registry.get? document.kind with
  | none => simp [found] at failed
  | some extractor =>
      rw [found] at failed
      by_cases asks : document.kind = .java ∧
          (extractor.extract document.text).1.context.identifiers ≠ []
      · simp [asks]
      · simp [asks] at failed

theorem outcomeWith_error {registry : Registry} {document : Document} {call : Call}
    (asks : request? registry document = some call) (error : Backend.Error) :
    outcomeWith registry document (.error error) =
      .error ⟨call.language, call.packages.length, error⟩ := by
  unfold request? at asks
  unfold outcomeWith
  cases found : registry.get? document.kind with
  | none => simp [found] at asks
  | some extractor =>
      simp only [found, Option.ite_none_right_eq_some, Option.some.injEq] at asks
      obtain ⟨needed, rfl⟩ := asks
      simp only [if_pos needed, answered, Call.ofExtraction, Except.map]

/-- A document without an extractor is of no supported kind; any other one has an extraction, or its
call has failed. -/
theorem outcomeWith_cases (registry : Registry) (document : Document) (answer : Answer) :
    (registry.get? document.kind = none ∧
      outcomeWith registry document answer = .ok (.unsupported document.fileName)) ∨
    (registry.get? document.kind ≠ none ∧
      ((∃ failure, outcomeWith registry document answer = .error failure) ∨
        ∃ extraction, outcomeWith registry document answer = .ok (.extracted extraction))) := by
  unfold outcomeWith
  cases registry.get? document.kind with
  | none => exact .inl ⟨rfl, rfl⟩
  | some extractor =>
      refine .inr ⟨by simp, ?_⟩
      dsimp only
      split
      · cases answer with
        | ok modules => exact .inr ⟨_, rfl⟩
        | error error => exact .inl ⟨_, rfl⟩
      · exact .inr ⟨_, rfl⟩

theorem exists_outcomeWith_ok {registry : Registry} {document : Document} {call : Call}
    (asks : request? registry document = some call) (modules : List String) :
    ∃ extraction, outcomeWith registry document (.ok modules) = .ok (.extracted extraction) := by
  unfold request? at asks
  unfold outcomeWith
  cases found : registry.get? document.kind with
  | none => simp [found] at asks
  | some extractor =>
      simp only [found, Option.ite_none_right_eq_some, Option.some.injEq] at asks
      obtain ⟨needed, rfl⟩ := asks
      simp only [if_pos needed, answered, Except.map]
      exact ⟨_, rfl⟩

/-! ## Handing in a document -/

section

variable {σ : Type} (assembler : Assembler σ) (fileName : String) {extraction : Extraction}

theorem resolveModules_of_empty (empty : extraction.context.identifiers = []) (state : σ) :
    assembler.resolveModules fileName extraction state = ⟨.ok extraction, [], state⟩ := by
  simp [Assembler.resolveModules, Context.isEmpty, empty, Run.pure]

/-- Packages are asked for once, all together, and the answer decides. -/
theorem resolveModules_of_packages (packages : extraction.context.identifiers ≠ []) (state : σ) :
    let asked := assembler.resolve extraction.language extraction.context.identifiers state
    let ran := assembler.resolveModules fileName extraction state
    ran.value = answered extraction asked.value ∧ ran.state = asked.state := by
  have asks : extraction.context.isEmpty = false := by
    simpa [Context.isEmpty] using packages
  unfold Assembler.resolveModules
  simp only [asks, Bool.false_eq_true, if_false, Run.bind_apply]
  cases (assembler.resolve extraction.language extraction.context.identifiers state).value with
  | ok modules => exact ⟨rfl, rfl⟩
  | error error => exact ⟨rfl, rfl⟩

end

section

variable {σ : Type} (assembler : Assembler σ) {document : Document}

/-- A document that makes no call leaves the resolver alone, and no answer matters to it. -/
theorem extractContext_of_silent (silent : request? assembler.registry document = none)
    (answer : Answer) (state : σ) :
    let ran := assembler.extractContext document.fileName document.text state
    ran.value = outcomeWith assembler.registry document answer ∧ ran.state = state := by
  unfold request? Document.kind at silent
  unfold Assembler.extractContext outcomeWith Document.kind
  cases found : assembler.registry.get? (classify document.fileName) with
  | none => exact ⟨rfl, rfl⟩
  | some extractor =>
      simp only [found, ite_eq_right_iff, reduceCtorEq, imp_false] at silent
      simp only [Run.bind_apply, Run.reportAll_apply, if_neg silent]
      -- either the kind needs no modules, or it does and there are no packages to ask for
      by_cases java : classify document.fileName = .java
      · have empty : (extractor.extract document.text).1.context.identifiers = [] :=
          Decidable.byContradiction fun packages => silent ⟨java, packages⟩
        rw [if_pos ((Kind.needsResolution_iff _).2 java)]
        simp only [Run.bind_apply, resolveModules_of_empty assembler document.fileName empty]
        exact ⟨rfl, rfl⟩
      · have notNeeded : ¬ (classify document.fileName).needsResolution = true :=
          fun needed => java ((Kind.needsResolution_iff _).1 needed)
        rw [if_neg notNeeded]
        exact ⟨rfl, rfl⟩

/-- A document that makes a call has the outcome that the answer gives it, and leaves the state that
the call leaves. -/
theorem extractContext_of_asking {call : Call}
    (asks : request? assembler.registry document = some call) (state : σ) :
    let asked := assembler.resolve call.language call.packages state
    let ran := assembler.extractContext document.fileName document.text state
    ran.value = outcomeWith assembler.registry document asked.value ∧
      ran.state = asked.state := by
  unfold request? Document.kind at asks
  unfold Assembler.extractContext outcomeWith Document.kind
  cases found : assembler.registry.get? (classify document.fileName) with
  | none => simp [found] at asks
  | some extractor =>
      simp only [found, Option.ite_none_right_eq_some, Option.some.injEq] at asks
      obtain ⟨⟨java, packages⟩, rfl⟩ := asks
      obtain ⟨value, after⟩ := resolveModules_of_packages assembler document.fileName packages state
      have both : classify document.fileName = .java ∧
          (extractor.extract document.text).1.context.identifiers ≠ [] := ⟨java, packages⟩
      simp only [Run.bind_apply, Run.reportAll_apply, if_pos both,
        if_pos ((Kind.needsResolution_iff _).2 java), Call.ofExtraction, value, after]
      cases answered (extractor.extract document.text).1
          (assembler.resolve (extractor.extract document.text).1.language
            (extractor.extract document.text).1.context.identifiers state).value with
      | ok resolved => exact ⟨rfl, rfl⟩
      | error failure => exact ⟨rfl, rfl⟩

/-- Whatever the resolver does, it comes to some answer. -/
theorem exists_extractContext_value (document : Document) (state : σ) :
    ∃ answer, (assembler.extractContext document.fileName document.text state).value =
      outcomeWith assembler.registry document answer := by
  cases asks : request? assembler.registry document with
  | none => exact ⟨.ok [], (extractContext_of_silent assembler asks (.ok []) state).1⟩
  | some call => exact ⟨_, (extractContext_of_asking assembler asks state).1⟩

end

/-! ## The selected document -/

/-- The call that the selected document makes, if there is one. -/
def selectedRequest? (registry : Registry) (document? : Option Document) : Option Call :=
  document?.bind (request? registry)

/-- The outcome for the selected document, if there is one, whose call gets an answer. -/
def selectedOutcomeWith (registry : Registry) (document? : Option Document) (answer : Answer) :
    Except Failure Outcome :=
  match document? with
  | some document => outcomeWith registry document answer
  | none => .ok .noDocument

section

variable {σ : Type} (assembler : Assembler σ) {active? : Option Document} {visible : List Document}

theorem extractActive_of_silent
    (silent : selectedRequest? assembler.registry (Assembler.selected? active? visible) = none)
    (answer : Answer) (state : σ) :
    let ran := assembler.extractActive active? visible state
    ran.value =
        selectedOutcomeWith assembler.registry (Assembler.selected? active? visible) answer ∧
      ran.state = state := by
  unfold Assembler.extractActive
  cases selected : Assembler.selected? active? visible with
  | none => exact ⟨rfl, rfl⟩
  | some document =>
      rw [selected] at silent
      exact extractContext_of_silent assembler silent answer state

theorem extractActive_of_asking {call : Call}
    (asks : selectedRequest? assembler.registry (Assembler.selected? active? visible) = some call)
    (state : σ) :
    let asked := assembler.resolve call.language call.packages state
    let ran := assembler.extractActive active? visible state
    ran.value =
        selectedOutcomeWith assembler.registry (Assembler.selected? active? visible) asked.value ∧
      ran.state = asked.state := by
  unfold Assembler.extractActive
  cases selected : Assembler.selected? active? visible with
  | none => simp [selectedRequest?, selected] at asks
  | some document =>
      rw [selected] at asks
      exact extractContext_of_asking assembler asks state

theorem exists_extractActive_value (active? : Option Document) (visible : List Document)
    (state : σ) :
    ∃ answer, (assembler.extractActive active? visible state).value =
      selectedOutcomeWith assembler.registry (Assembler.selected? active? visible) answer := by
  unfold Assembler.extractActive
  cases Assembler.selected? active? visible with
  | none => exact ⟨.ok [], rfl⟩
  | some document => exact exists_extractContext_value assembler document state

end

/-! ## Keeping the calls -/

/-- The same resolver, which also keeps the calls it gets. -/
def Resolver.recorded {σ : Type} (resolve : Resolver σ) : Resolver (σ × List Call) :=
  fun language packages (state, calls) =>
    let ran := resolve language packages state
    ⟨ran.value, ran.events, ran.state, calls ++ [⟨language, packages⟩]⟩

@[simp] theorem Resolver.recorded_apply {σ : Type} (resolve : Resolver σ) (language : Language)
    (packages : List String) (state : σ) (calls : List Call) :
    resolve.recorded language packages (state, calls) =
      ⟨(resolve language packages state).value, (resolve language packages state).events,
        (resolve language packages state).state, calls ++ [⟨language, packages⟩]⟩ := rfl

end LibraryScout.Assembly
