import LibraryScout.Proofs.Backend.Sequence

/-!
Contract: queries of which each waits for the success of the one before it.

Owns:
- `made`, the queries that are made, which are the first ones of a list;
- that a query is made if and only if all queries before it succeed, each on its own reply.

Does not own: how replies settle queries.
-/

namespace LibraryScout.Backend

open LibraryScout.Http LibraryScout.Settings

section

variable (client : Client)

def Succeeds (query : Query) (reply? : Option Reply) : Prop :=
  ∃ answer, query.valueWith client reply? = .ok answer

/-- The queries that are made: each as long as the one before it has succeeded. -/
def made : List Query → List Reply → List Query
  | [], _ => []
  | query :: later, script =>
      query :: match query.valueWith client script.head? with
        | .ok _ => made later script.tail
        | .error _ => []

theorem made_isPrefix (queries : List Query) (script : List Reply) :
    made client queries script <+: queries := by
  induction queries generalizing script with
  | nil => exact List.prefix_refl []
  | cons query later inductionHypothesis =>
      rw [made]
      refine List.cons_prefix_cons.2 ⟨rfl, ?_⟩
      split
      · exact inductionHypothesis script.tail
      · exact List.nil_prefix

theorem made_of_ok {query : Query} {script : List Reply} {answer : query.Answer}
    (settled : query.valueWith client script.head? = .ok answer) (later : List Query) :
    made client (query :: later) script = query :: made client later script.tail := by
  rw [made, settled]

theorem made_of_error {query : Query} {script : List Reply} {error : Error}
    (settled : query.valueWith client script.head? = .error error) (later : List Query) :
    made client (query :: later) script = [query] := by
  rw [made, settled]

theorem made_singleton (query : Query) (script : List Reply) :
    made client [query] script = [query] := by
  rw [made]
  split <;> rfl

/-- The first queries of a list succeed, each on the reply at its own place. -/
def FirstSucceed (queries : List Query) (script : List Reply) (count : Nat) : Prop :=
  ∀ place < count, ∀ query ∈ queries[place]?, Succeeds client query script[place]?

theorem firstSucceed_cons (query : Query) (later : List Query) (script : List Reply)
    (count : Nat) :
    FirstSucceed client (query :: later) script (count + 1) ↔
      Succeeds client query script.head? ∧ FirstSucceed client later script.tail count := by
  unfold FirstSucceed
  constructor
  · intro all
    refine ⟨?_, fun place fewer other isOther => ?_⟩
    · rw [List.head?_eq_getElem?]
      exact all 0 (Nat.succ_pos count) query rfl
    · rw [List.getElem?_tail]
      exact all (place + 1) (Nat.succ_lt_succ fewer) other isOther
  · intro ⟨first, others⟩ place fewer other isOther
    cases place with
    | zero =>
        obtain rfl := Option.some.inj isOther
        rw [← List.head?_eq_getElem?]
        exact first
    | succ place =>
        rw [← List.getElem?_tail]
        exact others place (Nat.lt_of_succ_lt_succ fewer) other isOther

theorem firstSucceed_append (first later : List Query) (script : List Reply) (count : Nat) :
    FirstSucceed client (first ++ later) script (first.length + count) ↔
      FirstSucceed client first script first.length ∧
        FirstSucceed client later (script.drop first.length) count := by
  induction first generalizing script with
  | nil =>
      have nothing : FirstSucceed client [] script 0 := fun place fewer => absurd fewer (by simp)
      simp [nothing]
  | cons query others inductionHypothesis =>
      have counted : (query :: others).length + count = others.length + count + 1 :=
        Nat.succ_add _ _
      have dropped : script.drop (query :: others).length = script.tail.drop others.length := by
        rw [List.drop_tail, List.length_cons]
      rw [List.cons_append, counted, firstSucceed_cons, inductionHypothesis, List.length_cons,
        firstSucceed_cons, and_assoc, ← dropped]
      rfl

/-- A query is made if and only if all queries before it have succeeded. -/
theorem lt_length_made (queries : List Query) (script : List Reply) (place : Nat) :
    place < (made client queries script).length ↔
      place < queries.length ∧ FirstSucceed client queries script place := by
  induction queries generalizing script place with
  | nil => simp [made]
  | cons query later inductionHypothesis =>
      rw [made]
      cases place with
      | zero => simp [FirstSucceed]
      | succ place =>
          rw [firstSucceed_cons, List.length_cons, List.length_cons, Nat.succ_lt_succ_iff,
            Nat.succ_lt_succ_iff]
          cases settled : query.valueWith client script.head? with
          | ok answer =>
              have succeeds : Succeeds client query script.head? := ⟨answer, settled⟩
              simp only [inductionHypothesis, succeeds, true_and]
          | error error =>
              have fails : ¬ Succeeds client query script.head? := by
                intro ⟨answer, succeeded⟩
                exact absurd (settled.symm.trans succeeded) (by simp)
              simp only [fails, false_and, and_false, List.length_nil, Nat.not_lt_zero]

end

end LibraryScout.Backend
