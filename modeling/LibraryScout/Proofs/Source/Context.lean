import LibraryScout.Source.Context
import Mathlib.Data.List.Induction
import Mathlib.Data.List.Nodup

/-!
Contract: contexts as lists of first occurrences, and what sequences of operations do to them.

Owns:
- `IsFirstOccurrences`, what a context without repetitions keeps of a list, and that `unique` makes
  just this context;
- `Operation`, a push of either sort with what it returns, and sequences of operations;
- the account of a sequence: what stays, what is returned, how much is added, and whether the
  context that it ends with is one of first occurrences.

Every operation appends at most one identifier and touches nothing else. So a context stays free of
repetitions until a push appends an identifier that is there already, and never becomes so again.

Does not own: which operations an extractor makes.
-/

namespace LibraryScout.Source.Context

/-! ## First occurrences -/

/-- A context holds the identifiers of a list that are not empty, each once, in the order in which
they occur first. -/
structure IsFirstOccurrences (identifiers : List String) (context : Context) : Prop where
  members : ∀ identifier,
    identifier ∈ context.identifiers ↔ identifier ∈ identifiers ∧ identifier ≠ ""
  once : context.identifiers.Nodup
  ordered : context.identifiers.Pairwise fun earlier later =>
    identifiers.idxOf earlier < identifiers.idxOf later

theorem unique_append (identifiers others : List String) :
    unique (identifiers ++ others) = others.foldl pushUnique (unique identifiers) :=
  List.foldl_append

theorem admits_eq_true_iff {context : Context} {identifier : String} :
    context.admits identifier = true ↔ identifier ≠ "" ∧ identifier ∉ context.identifiers := by
  simp [admits, contains]

theorem ordered_unique (identifiers : List String) :
    (unique identifiers).identifiers.Pairwise fun earlier later =>
      identifiers.idxOf earlier < identifiers.idxOf later := by
  induction identifiers using List.reverseRecOn with
  | nil => exact .nil
  | append_singleton before last inductionHypothesis =>
      have place : ∀ identifier ∈ (unique before).identifiers,
          (before ++ [last]).idxOf identifier = before.idxOf identifier ∧
            before.idxOf identifier < before.length := by
        intro identifier member
        have inside := (mem_unique.1 member).1
        exact ⟨List.idxOf_append_of_mem inside, List.idxOf_lt_length_of_mem inside⟩
      have kept : (unique before).identifiers.Pairwise fun earlier later =>
          (before ++ [last]).idxOf earlier < (before ++ [last]).idxOf later := by
        refine inductionHypothesis.imp_of_mem fun {earlier later} first second less => ?_
        rw [(place earlier first).1, (place later second).1]
        exact less
      rw [unique_append, List.foldl_cons, List.foldl_nil, identifiers_pushUnique]
      by_cases admitted : (unique before).admits last = true
      · obtain ⟨nonempty, absent⟩ := admits_eq_true_iff.1 admitted
        have new : last ∉ before := fun member => absent (mem_unique.2 ⟨member, nonempty⟩)
        rw [if_pos admitted, List.pairwise_append]
        refine ⟨kept, List.pairwise_singleton _ _, fun earlier member later isLast => ?_⟩
        obtain rfl := List.mem_singleton.1 isLast
        obtain ⟨same, inside⟩ := place earlier member
        rw [same, List.idxOf_append_of_notMem new]
        omega
      · rw [if_neg admitted, List.append_nil]
        exact kept

theorem isFirstOccurrences_unique (identifiers : List String) :
    IsFirstOccurrences identifiers (unique identifiers) :=
  ⟨fun _ => mem_unique, nodup_unique identifiers, ordered_unique identifiers⟩

/-- The first occurrences in a list make one context only. -/
theorem IsFirstOccurrences.eq_unique {identifiers : List String} {context : Context}
    (occurrences : IsFirstOccurrences identifiers context) : context = unique identifiers := by
  have made := isFirstOccurrences_unique identifiers
  have sameMembers : context.identifiers.Perm (unique identifiers).identifiers := by
    rw [List.perm_ext_iff_of_nodup occurrences.once made.once]
    intro identifier
    rw [occurrences.members, made.members]
  have same : context.identifiers = (unique identifiers).identifiers := by
    refine sameMembers.eq_of_pairwise ?_ occurrences.ordered made.ordered
    intro first second _ _ before behind
    omega
  exact congrArg Context.mk same

/-- A context is one of first occurrences when it holds nothing empty and nothing twice. -/
theorem unique_identifiers_iff {context : Context} :
    unique context.identifiers = context ↔
      "" ∉ context.identifiers ∧ context.identifiers.Nodup := by
  constructor
  · intro same
    rw [← same]
    exact ⟨fun member => (mem_unique.1 member).2 rfl, nodup_unique _⟩
  · rintro ⟨nonempty, distinct⟩
    have ordered : context.identifiers.Pairwise fun earlier later =>
        context.identifiers.idxOf earlier < context.identifiers.idxOf later := by
      rw [List.pairwise_iff_getElem]
      intro first second firstInside secondInside less
      rw [distinct.idxOf_getElem, distinct.idxOf_getElem]
      exact less
    have members : ∀ identifier, identifier ∈ context.identifiers ↔
        identifier ∈ context.identifiers ∧ identifier ≠ "" :=
      fun identifier => ⟨fun member => ⟨member, fun empty => nonempty (empty ▸ member)⟩, And.left⟩
    exact (IsFirstOccurrences.eq_unique ⟨members, distinct, ordered⟩).symm

/-! ## Operations -/

/-- An operation that may add to a context. -/
inductive Operation where
  | push (identifier : String)
  | pushUnique (identifier : String)
deriving DecidableEq, Repr

namespace Operation

/-- Carries out an operation on a context. A unique push returns whether it has appended its
identifier, a plain one returns nothing. -/
def perform (context : Context) : Operation → Option Bool × Context
  | push identifier => (none, context.push identifier)
  | pushUnique identifier => (some (context.admits identifier), context.pushUnique identifier)

/-- What an operation appends to a context. -/
def appended (context : Context) : Operation → List String
  | push identifier => if identifier = "" then [] else [identifier]
  | pushUnique identifier => if context.admits identifier then [identifier] else []

def isNonemptyPush : Operation → Bool
  | push identifier => identifier ≠ ""
  | pushUnique _ => false

/-- A push appends what is there already. -/
def Repeats (context : Context) : Operation → Prop
  | push identifier => identifier ≠ "" ∧ identifier ∈ context.identifiers
  | pushUnique _ => False

variable (operation : Operation) (context : Context)

theorem identifiers_perform :
    (operation.perform context).2.identifiers =
      context.identifiers ++ operation.appended context := by
  cases operation with
  | push identifier => exact identifiers_push context identifier
  | pushUnique identifier => exact identifiers_pushUnique context identifier

theorem empty_notMem_appended : "" ∉ operation.appended context := by
  cases operation with
  | push identifier =>
      by_cases empty : identifier = ""
      · simp [appended, empty]
      · simp [appended, empty, eq_comm]
  | pushUnique identifier =>
      by_cases admitted : context.admits identifier = true
      · simp [appended, admitted, (admits_eq_true_iff.1 admitted).1.symm]
      · simp [appended, admitted]

theorem length_appended :
    (operation.appended context).length = (if operation.isNonemptyPush then 1 else 0) +
      if (operation.perform context).1 = some true then 1 else 0 := by
  cases operation with
  | push identifier =>
      by_cases empty : identifier = "" <;> simp [appended, isNonemptyPush, perform, empty]
  | pushUnique identifier =>
      by_cases admitted : context.admits identifier = true <;>
        simp [appended, isNonemptyPush, perform, admitted]

/-- Only a push that repeats what is there makes a context one with repetitions. -/
theorem nodup_perform_iff :
    (operation.perform context).2.identifiers.Nodup ↔
      context.identifiers.Nodup ∧ ¬ operation.Repeats context := by
  cases operation with
  | push identifier =>
      rw [identifiers_perform]
      by_cases empty : identifier = ""
      · simp [appended, Repeats, empty]
      · simp [appended, Repeats, empty, List.nodup_append, List.forall_mem_ne']
  | pushUnique identifier =>
      refine ⟨fun distinct => ⟨?_, id⟩, fun ⟨distinct, _⟩ => nodup_pushUnique distinct identifier⟩
      rw [identifiers_perform] at distinct
      exact distinct.of_append_left

end Operation

/-! ## Sequences of operations -/

/-- The context after operations one after another. -/
def after (start : Context) (operations : List Operation) : Context :=
  operations.foldl (fun context operation => (operation.perform context).2) start

/-- What operations one after another return. -/
def results (start : Context) : List Operation → List (Option Bool)
  | [] => []
  | operation :: later =>
      (operation.perform start).1 :: (operation.perform start).2.results later

@[simp] theorem after_nil (start : Context) : start.after [] = start := rfl

@[simp] theorem after_cons (start : Context) (operation : Operation) (later : List Operation) :
    start.after (operation :: later) = (operation.perform start).2.after later := rfl

theorem after_append (start : Context) (first second : List Operation) :
    start.after (first ++ second) = (start.after first).after second :=
  List.foldl_append

theorem results_getElem? (start : Context) (operations : List Operation) (place : Nat) :
    (start.results operations)[place]? = operations[place]?.map fun operation =>
      (operation.perform (start.after (operations.take place))).1 := by
  induction operations generalizing start place with
  | nil => rfl
  | cons operation later inductionHypothesis =>
      cases place with
      | zero => rfl
      | succ place => exact inductionHypothesis (operation.perform start).2 place

theorem after_take_succ (start : Context) {operations : List Operation} {place : Nat}
    {operation : Operation} (here : operations[place]? = some operation) :
    start.after (operations.take (place + 1)) =
      (operation.perform (start.after (operations.take place))).2 := by
  rw [List.take_add_one, here, after_append]
  rfl

theorem isPrefix_after (start : Context) (operations : List Operation) :
    start.identifiers <+: (start.after operations).identifiers := by
  induction operations generalizing start with
  | nil => exact List.prefix_rfl
  | cons operation later inductionHypothesis =>
      have first : start.identifiers <+: (operation.perform start).2.identifiers := by
        rw [Operation.identifiers_perform]
        exact List.prefix_append _ _
      exact first.trans (inductionHypothesis _)

theorem empty_notMem_after {start : Context} (nonempty : "" ∉ start.identifiers)
    (operations : List Operation) : "" ∉ (start.after operations).identifiers := by
  induction operations generalizing start with
  | nil => exact nonempty
  | cons operation later inductionHypothesis =>
      apply inductionHypothesis
      rw [Operation.identifiers_perform, List.mem_append, not_or]
      exact ⟨nonempty, operation.empty_notMem_appended start⟩

theorem size_after (start : Context) (operations : List Operation) :
    (start.after operations).size =
      start.size + (operations.countP Operation.isNonemptyPush +
        (start.results operations).count (some true)) := by
  induction operations generalizing start with
  | nil => rfl
  | cons operation later inductionHypothesis =>
      have grown : (operation.perform start).2.size =
          start.size + (operation.appended start).length := by
        rw [size, Operation.identifiers_perform, List.length_append, size]
      rw [after_cons, inductionHypothesis, grown, operation.length_appended start,
        List.countP_cons, results, List.count_cons]
      simp only [beq_iff_eq]
      omega

/-- A context stays free of repetitions just as long as no push repeats what is there. -/
theorem nodup_after_iff (start : Context) (operations : List Operation) :
    (start.after operations).identifiers.Nodup ↔ start.identifiers.Nodup ∧
      ∀ (place : Nat) operation, operations[place]? = some operation →
        ¬ operation.Repeats (start.after (operations.take place)) := by
  induction operations generalizing start with
  | nil => simp
  | cons operation later inductionHypothesis =>
      rw [after_cons, inductionHypothesis, Operation.nodup_perform_iff]
      constructor
      · rintro ⟨⟨distinct, first⟩, others⟩
        refine ⟨distinct, fun place other here => ?_⟩
        cases place with
        | zero =>
            obtain rfl := Option.some.inj here
            exact first
        | succ place => exact others place other here
      · rintro ⟨distinct, each⟩
        exact ⟨⟨distinct, each 0 operation rfl⟩, fun place => each (place + 1)⟩

/-! ## The account -/

/-- A context to which no operation has been applied: the empty one, or the first occurrences in a
list. -/
def IsFresh (context : Context) : Prop :=
  context = empty ∨ ∃ identifiers, context = unique identifiers

theorem IsFresh.unique_identifiers {context : Context} (fresh : context.IsFresh) :
    unique context.identifiers = context := by
  rcases fresh with rfl | ⟨identifiers, rfl⟩
  · rfl
  · rw [unique_identifiers_iff]
    exact ⟨fun member => (mem_unique.1 member).2 rfl, nodup_unique identifiers⟩

/-- The account of operations on a context, which after some of them is the context after the first
operations of the list. -/
structure Account (start : Context) (operations : List Operation) : Prop where
  /-- No identifier is ever empty. -/
  nonempty : ∀ count, "" ∉ (start.after (operations.take count)).identifiers
  /-- What is there stays in its place. -/
  stays : ∀ earlier later, earlier ≤ later →
    (start.after (operations.take earlier)).identifiers <+:
      (start.after (operations.take later)).identifiers
  /-- A unique push returns whether it appends its identifier, which it does when the identifier is
  neither empty nor there. -/
  returned : ∀ (place : Nat) identifier, operations[place]? = some (.pushUnique identifier) →
    let before := start.after (operations.take place)
    let behind := start.after (operations.take (place + 1))
    ∃ pushed, (start.results operations)[place]? = some (some pushed) ∧
      (pushed = true ↔ behind.identifiers = before.identifiers ++ [identifier]) ∧
      (pushed = true ↔ identifier ≠ "" ∧ before.contains identifier = false) ∧
      (pushed = false → behind = before)
  /-- The size grows by one for each push that is not empty and each unique push that returns
  true. -/
  size : (start.after operations).size = start.size +
    (operations.countP Operation.isNonemptyPush + (start.results operations).count (some true))
  /-- The context holds nothing twice as long as no push has repeated what was there. -/
  unique_iff : unique (start.after operations).identifiers = start.after operations ↔
    ∀ (place : Nat) operation, operations[place]? = some operation →
      ¬ operation.Repeats (start.after (operations.take place))

theorem IsFresh.account {start : Context} (fresh : start.IsFresh) (operations : List Operation) :
    start.Account operations := by
  obtain ⟨nonempty, distinct⟩ := unique_identifiers_iff.1 fresh.unique_identifiers
  refine ⟨fun count => empty_notMem_after nonempty _, ?stays, ?returned,
    size_after start operations, ?unique_iff⟩
  case stays =>
    intro earlier later inOrder
    obtain ⟨between, split⟩ := List.take_prefix_take_left (l := operations) inOrder
    rw [← split, after_append]
    exact isPrefix_after _ between
  case returned =>
    intro place identifier here before behind
    have behindEq : behind = before.pushUnique identifier := after_take_succ start here
    refine ⟨before.admits identifier, ?_, ?_, ?_, fun refused => ?_⟩
    · rw [results_getElem?, here]
      rfl
    · rw [behindEq, identifiers_pushUnique]
      cases before.admits identifier <;> simp
    · simp [admits]
    · rw [behindEq, pushUnique, refused]
      rfl
  case unique_iff =>
    rw [unique_identifiers_iff, nodup_after_iff]
    simp only [empty_notMem_after nonempty operations, distinct, not_false_eq_true, true_and]

/-- The first occurrences of a list make just one context, which is its own; more of the list are
pushed onto it one by one. And whatever is pushed onto such a context, what there was stays, nothing
empty comes in, and the account of the pushes tells how much was added and whether anything is there
twice. -/
theorem keeps_first_occurrences (identifiers others : List String) {start : Context}
    (fresh : start.IsFresh) (operations : List Operation) :
    (∀ context, IsFirstOccurrences identifiers context ↔ context = unique identifiers) ∧
      unique (unique identifiers).identifiers = unique identifiers ∧
      unique (identifiers ++ others) = others.foldl pushUnique (unique identifiers) ∧
      start.Account operations := by
  refine ⟨fun context => ⟨IsFirstOccurrences.eq_unique, ?_⟩, ?_, unique_append identifiers others,
    fresh.account operations⟩
  · rintro rfl
    exact isFirstOccurrences_unique identifiers
  · exact IsFresh.unique_identifiers (.inr ⟨identifiers, rfl⟩)

/-- A plain push of what is there, behind pushes that do nothing. -/
theorem keeps_first_occurrences_until_repeated :
    (unique ["a", "", "b", "a"]).IsFresh ∧
      unique ((unique ["a", "", "b", "a"]).after
          [.pushUnique "b", .push "", .pushUnique "c", .push "a"]).identifiers ≠
        (unique ["a", "", "b", "a"]).after
          [.pushUnique "b", .push "", .pushUnique "c", .push "a"] := by
  have fresh : (unique ["a", "", "b", "a"]).IsFresh := .inr ⟨_, rfl⟩
  obtain ⟨-, -, -, account⟩ := keeps_first_occurrences [] [] fresh
    [.pushUnique "b", .push "", .pushUnique "c", .push "a"]
  refine ⟨fresh, fun same => ?_⟩
  apply account.unique_iff.1 same 3 (.push "a") rfl
  exact ⟨by decide, by decide⟩

end LibraryScout.Source.Context
