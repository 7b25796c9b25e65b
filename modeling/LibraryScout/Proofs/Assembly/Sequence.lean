import LibraryScout.Assembly.Script
import LibraryScout.Proofs.Assembly.Document

/-!
Contract: documents handed in one after another, with a script as the resolver.

Owns the account of a whole sequence: which calls were made, which answers are left, and which
answer settled which document.

An answer is taken exactly when a call is made, so the number of calls before a document is the
place of its answer in the script. Failures neither take nor give back an answer, which is why they
do not reach the documents after them.
-/

namespace LibraryScout.Assembly

open LibraryScout.Source

/-- The answer at a place of a script; behind its end every call fails. -/
def answerAt (answers : List Answer) (place : Nat) : Answer :=
  answers[place]?.getD (.error Script.exhausted)

/-! ## One document and a script -/

/-- The assembler that asks a script. -/
def scripted (registry : Registry) : Assembler Script :=
  ⟨registry, Script.resolver⟩

@[simp] theorem scripted_registry (registry : Registry) :
    (scripted registry).registry = registry := rfl

/-- The script after a document: a call takes the first answer and is recorded. -/
def Script.after (script : Script) : Option Call → Script
  | none => script
  | some call => ⟨script.answers.drop 1, script.calls ++ [call]⟩

theorem Script.resolver_apply (call : Call) (script : Script) :
    Script.resolver call.language call.packages script =
      ⟨answerAt script.answers 0, [], script.after (some call)⟩ := by
  obtain ⟨answers, calls⟩ := script
  cases answers with
  | nil => rfl
  | cons first later => rfl

/-- One document takes the first answer that is left if it makes a call. -/
theorem extractContext_scripted (registry : Registry) (document : Document) (script : Script) :
    let ran := (scripted registry).extractContext document.fileName document.text script
    ran.value = outcomeWith registry document (answerAt script.answers 0) ∧
      ran.state = script.after (request? registry document) := by
  cases asked : request? registry document with
  | none => exact extractContext_of_silent (scripted registry) asked _ script
  | some call =>
      have asking := extractContext_of_asking (scripted registry) asked script
      simpa only [scripted, Script.resolver_apply] using asking

/-! ## A sequence of documents -/

/-- The outcomes of documents handed in one after another. -/
def Assembler.extractEach {σ : Type} (assembler : Assembler σ) :
    List Document → Run σ (List (Except Failure Outcome))
  | [] => return []
  | document :: later => do
      let outcome ← assembler.extractContext document.fileName document.text
      let outcomes ← assembler.extractEach later
      return outcome :: outcomes

/-- The calls that documents make, in their order. -/
def requests (registry : Registry) (documents : List Document) : List Call :=
  documents.filterMap (request? registry)

/-- The state after a sequence: every call is recorded and has taken one answer. -/
theorem extractEach_state (registry : Registry) (documents : List Document) (script : Script) :
    ((scripted registry).extractEach documents script).state =
      ⟨script.answers.drop (requests registry documents).length,
        script.calls ++ requests registry documents⟩ := by
  induction documents generalizing script with
  | nil => simp [Assembler.extractEach, requests]
  | cons document later inductionHypothesis =>
      obtain ⟨_, state⟩ := extractContext_scripted registry document script
      simp only [Assembler.extractEach, Run.bind_apply, Run.pure_apply, state, inductionHypothesis]
      cases asked : request? registry document with
      | none => simp [requests, asked, Script.after]
      | some call => simp [requests, asked, Script.after, Nat.add_comm]

/-- The outcome of every document: its answer stands in the script at the number of calls that the
documents before it make. -/
theorem extractEach_value (registry : Registry) (documents : List Document) (script : Script)
    (position : Nat) :
    ((scripted registry).extractEach documents script).value[position]? =
      documents[position]?.map fun document =>
        outcomeWith registry document
          (answerAt script.answers (requests registry (documents.take position)).length) := by
  induction documents generalizing script position with
  | nil => simp [Assembler.extractEach]
  | cons document later inductionHypothesis =>
      obtain ⟨value, state⟩ := extractContext_scripted registry document script
      simp only [Assembler.extractEach, Run.bind_apply, Run.pure_apply, value, state]
      cases position with
      | zero => simp [requests]
      | succ position =>
          rw [List.getElem?_cons_succ, List.getElem?_cons_succ, inductionHypothesis]
          cases asked : request? registry document with
          | none => simp [requests, asked, Script.after]
          | some call => simp [requests, asked, Script.after, answerAt, Nat.add_comm]

/-- Behind a document that makes a call, more calls have been made than before it. -/
theorem requests_take_lt {registry : Registry} {documents : List Document} {document : Document}
    {first second : Nat} (standing : documents[first]? = some document)
    (asks : request? registry document ≠ none) (before : first < second) :
    (requests registry (documents.take first)).length <
      (requests registry (documents.take second)).length := by
  obtain ⟨call, asked⟩ := Option.ne_none_iff_exists'.1 asks
  have throughFirst :
      (requests registry (documents.take (first + 1))).length =
        (requests registry (documents.take first)).length + 1 := by
    rw [List.take_add_one, standing, requests, List.filterMap_append]
    simp [requests, asked]
  have included : documents.take (first + 1) <+: documents.take second :=
    List.take_prefix_take_left before
  have atMost : (requests registry (documents.take (first + 1))).length ≤
      (requests registry (documents.take second)).length :=
    (included.filterMap (request? registry)).length_le
  omega

/-- Two documents that both make a call have their answers at different places. -/
theorem requests_take_ne {registry : Registry} {documents : List Document}
    {document other : Document} {first second : Nat}
    (standing : documents[first]? = some document) (asks : request? registry document ≠ none)
    (otherStanding : documents[second]? = some other) (otherAsks : request? registry other ≠ none)
    (different : second ≠ first) :
    (requests registry (documents.take second)).length ≠
      (requests registry (documents.take first)).length := by
  rcases Nat.lt_or_gt_of_ne different with earlier | later
  · exact Nat.ne_of_lt (requests_take_lt otherStanding otherAsks earlier)
  · exact Nat.ne_of_gt (requests_take_lt standing asks later)

/-- The account of a sequence of documents over a script. The recorded calls are those of the
documents, in order; each has taken one answer as long as there were some; every outcome is settled
by the document and its own answer alone; and no outcome but that of a failed document depends on
the answer at which it failed. -/
theorem extractEach_account (registry : Registry) (answers : List Answer)
    (documents : List Document) :
    let ran := (scripted registry).extractEach documents (.ofAnswers answers)
    ran.state.calls = requests registry documents ∧
      ran.state.answers = answers.drop ran.state.calls.length ∧
      ran.state.remaining = answers.length - ran.state.calls.length ∧
      (∀ position, ran.value[position]? = documents[position]?.map fun document =>
        outcomeWith registry document
          (answerAt answers (requests registry (documents.take position)).length)) ∧
      ∀ failed failure, ran.value[failed]? = some (.error failure) →
        ∀ others : List Answer,
          (∀ place, place ≠ (requests registry (documents.take failed)).length →
            others[place]? = answers[place]?) →
          ∀ position, position ≠ failed →
            ((scripted registry).extractEach documents (.ofAnswers others)).value[position]? =
              ran.value[position]? := by
  intro ran
  have state : ran.state = ⟨answers.drop (requests registry documents).length,
      requests registry documents⟩ := by
    simpa [ran, Script.ofAnswers] using
      extractEach_state registry documents (.ofAnswers answers)
  refine ⟨by rw [state], by rw [state], ?_, ?_, ?_⟩
  · rw [state, Script.remaining, List.length_drop]
  · intro position
    exact extractEach_value registry documents (.ofAnswers answers) position
  · intro failed failure failedThere others agree position different
    rw [extractEach_value] at failedThere
    obtain ⟨document, standing, failedWith⟩ := Option.map_eq_some_iff.1 failedThere
    have asks := request?_ne_none_of_outcomeWith failedWith
    rw [extractEach_value, extractEach_value]
    cases otherStanding : documents[position]? with
    | none => rfl
    | some other =>
        by_cases silent : request? registry other = none
        · exact congrArg some (outcomeWith_of_request?_eq_none silent _ _)
        · have apart := requests_take_ne standing asks otherStanding silent different
          simp only [Option.map_some, answerAt, Script.ofAnswers, agree _ apart]

/-- The first of two sources meets a failure, and the second one does not notice. -/
theorem extractEach_account_of_failed_first :
    let documents : List Document := [⟨"A.java", "import a.b.C;"⟩, ⟨"B.java", "import d.E;"⟩]
    let failing : List Answer := [.error (.timeout 1), .ok ["d:e"]]
    let answering : List Answer := [.ok ["a:b"], .ok ["d:e"]]
    ((scripted .defaults).extractEach documents (.ofAnswers answering)).value[1]? =
      ((scripted .defaults).extractEach documents (.ofAnswers failing)).value[1]? := by
  intro documents failing answering
  refine (extractEach_account .defaults failing documents).2.2.2.2 0 ⟨.java, 1, .timeout 1⟩ ?_
    answering ?_ 1 (by decide)
  · rw [extractEach_value]
    have kind : (⟨"A.java", "import a.b.C;"⟩ : Document).kind = .java := by decide +kernel
    have found : Registry.defaults.get? .java = some .java := rfl
    have read : (Extractor.java.extract "import a.b.C;").1 = ⟨⟨["a.b"]⟩, .java, []⟩ := by
      decide +kernel
    simp [documents, outcomeWith, kind, found, read, requests, failing, Script.ofAnswers, answerAt,
      answered, Except.map]
  · intro place elsewhere
    have calls : (requests .defaults (documents.take 0)).length = 0 := rfl
    rw [calls] at elsewhere
    obtain ⟨later, rfl⟩ := Nat.exists_eq_succ_of_ne_zero elsewhere
    rfl

end LibraryScout.Assembly
