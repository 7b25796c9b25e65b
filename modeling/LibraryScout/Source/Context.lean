/-!
Contract: contexts, the ordered lists of dependency identifiers of one document.

The order is the order of first appearance. `push` keeps repetitions and `pushUnique` does not;
neither admits an empty identifier, and nothing else builds a context.
-/

namespace LibraryScout.Source

/-- Dependency identifiers in the order in which they were found. -/
structure Context where
  identifiers : List String
deriving DecidableEq, Repr

namespace Context

def empty : Context :=
  ⟨[]⟩

def contains (context : Context) (identifier : String) : Bool :=
  context.identifiers.contains identifier

def size (context : Context) : Nat :=
  context.identifiers.length

def isEmpty (context : Context) : Bool :=
  context.identifiers.isEmpty

/-- Appends an identifier unless it is empty. -/
def push (context : Context) (identifier : String) : Context :=
  if identifier = "" then context else ⟨context.identifiers ++ [identifier]⟩

/-- An identifier that `pushUnique` appends: it is not empty and not yet present. -/
def admits (context : Context) (identifier : String) : Bool :=
  identifier ≠ "" && !context.contains identifier

/-- Appends an identifier unless it is empty or present. -/
def pushUnique (context : Context) (identifier : String) : Context :=
  if context.admits identifier then ⟨context.identifiers ++ [identifier]⟩ else context

/-- The context with every non-empty identifier in turn, repetitions kept. -/
def ofList (identifiers : List String) : Context :=
  identifiers.foldl push empty

/-- The context with the first occurrence of every non-empty identifier. -/
def unique (identifiers : List String) : Context :=
  identifiers.foldl pushUnique empty

@[simp] theorem identifiers_empty : empty.identifiers = [] := rfl

theorem identifiers_push (context : Context) (identifier : String) :
    (context.push identifier).identifiers =
      context.identifiers ++ if identifier = "" then [] else [identifier] := by
  unfold push
  split <;> simp

theorem identifiers_pushUnique (context : Context) (identifier : String) :
    (context.pushUnique identifier).identifiers =
      context.identifiers ++ if context.admits identifier then [identifier] else [] := by
  unfold pushUnique
  split <;> simp

theorem identifiers_foldl_push (context : Context) (identifiers : List String) :
    (identifiers.foldl push context).identifiers =
      context.identifiers ++ identifiers.filter fun identifier => identifier ≠ "" := by
  induction identifiers generalizing context with
  | nil => simp
  | cons identifier others inductionHypothesis =>
      rw [List.foldl_cons, inductionHypothesis, identifiers_push]
      by_cases empty : identifier = ""
      · simp [empty]
      · simp [empty]

/-- Pushing one by one keeps all that is not empty. -/
theorem identifiers_ofList (identifiers : List String) :
    (ofList identifiers).identifiers = identifiers.filter fun identifier => identifier ≠ "" := by
  simpa [ofList] using identifiers_foldl_push empty identifiers

/-- An identifier that was just appended is the one that is no longer admitted. -/
theorem admits_pushUnique {context : Context} {identifier : String}
    (admitted : context.admits identifier = true) :
    (context.pushUnique identifier).admits =
      fun later => (!later == identifier) && context.admits later := by
  funext later
  rw [admits, contains, identifiers_pushUnique, if_pos admitted]
  by_cases same : later = identifier
  · simp [same]
  · simp [admits, contains, same]

theorem identifiers_foldl_pushUnique (context : Context) (identifiers : List String) :
    (identifiers.foldl pushUnique context).identifiers =
      context.identifiers ++ (identifiers.filter context.admits).eraseDups := by
  induction identifiers generalizing context with
  | nil => simp
  | cons identifier others inductionHypothesis =>
      rw [List.foldl_cons, inductionHypothesis, identifiers_pushUnique]
      by_cases admitted : context.admits identifier = true
      · rw [if_pos admitted, List.filter_cons_of_pos admitted, List.eraseDups_cons,
          List.filter_filter, List.append_assoc, List.singleton_append,
          admits_pushUnique admitted]
      · have unchanged : context.pushUnique identifier = context := by
          rw [pushUnique, if_neg admitted]
        rw [if_neg admitted, List.filter_cons_of_neg admitted, unchanged, List.append_nil]

/-- Pushing uniquely one by one keeps the first of equal identifiers, the empty one aside. -/
theorem identifiers_unique (identifiers : List String) :
    (unique identifiers).identifiers =
      (identifiers.filter fun identifier => identifier ≠ "").eraseDups := by
  have admitsAll : empty.admits = fun identifier => decide (identifier ≠ "") := by
    funext identifier
    simp [admits, contains, empty]
  rw [unique, identifiers_foldl_pushUnique, admitsAll]
  simp

theorem mem_unique {identifiers : List String} {identifier : String} :
    identifier ∈ (unique identifiers).identifiers ↔
      identifier ∈ identifiers ∧ identifier ≠ "" := by
  rw [identifiers_unique, List.mem_eraseDups]
  simp

theorem mem_ofList {identifiers : List String} {identifier : String} :
    identifier ∈ (ofList identifiers).identifiers ↔
      identifier ∈ identifiers ∧ identifier ≠ "" := by
  rw [identifiers_ofList]
  simp

theorem nodup_pushUnique {context : Context} (distinct : context.identifiers.Nodup)
    (identifier : String) : (context.pushUnique identifier).identifiers.Nodup := by
  rw [identifiers_pushUnique]
  by_cases admitted : context.admits identifier = true
  · have absent : identifier ∉ context.identifiers := by
      simp only [admits, contains, Bool.and_eq_true, Bool.not_eq_true'] at admitted
      simpa using admitted.2
    rw [if_pos admitted, List.nodup_append]
    refine ⟨distinct, by simp, ?_⟩
    intro present member appended isAppended same
    rw [List.mem_singleton] at isAppended
    exact absent (isAppended ▸ same ▸ member)
  · simpa [admitted] using distinct

theorem nodup_unique (identifiers : List String) : (unique identifiers).identifiers.Nodup := by
  have run : ∀ context : Context, context.identifiers.Nodup →
      (identifiers.foldl pushUnique context).identifiers.Nodup := by
    induction identifiers with
    | nil => exact fun _ distinct => distinct
    | cons identifier others inductionHypothesis =>
        intro context distinct
        exact inductionHypothesis _ (nodup_pushUnique distinct identifier)
  exact run empty List.nodup_nil

end Context

end LibraryScout.Source
