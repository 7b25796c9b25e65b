import LibraryScout.Assembly.Script

/-!
Contract: what a registry finds after a sequence of registrations.

Owns:
- `lastOf?`, the last extractor of a kind in a sequence of registrations;
- that a registry holds one extractor for a kind at most, the last one, whatever came in between;
- that nothing but the last registration of each kind matters to what is made of documents.

A registration takes out what it replaces and puts itself at the end, so the order in which
extractors are held tells nothing. Two registries are compared by what they find.
-/

namespace LibraryScout.Source.Registry

/-! ## Registrations -/

/-- A registry to start from. -/
inductive Start where
  | empty
  | defaults

def Start.registry : Start → Registry
  | empty => .empty
  | defaults => .defaults

/-- The extractors that are registered at the start. -/
def Start.extractors : Start → List Extractor
  | empty => []
  | defaults => Extractor.all

/-- The extractor of a kind at the start. -/
def Start.extractor? : Start → Kind → Option Extractor
  | empty, _ => none
  | defaults, kind => Extractor.all.find? fun extractor => extractor.kind = kind

/-- The registry after registrations one after another. -/
def registerAll (registry : Registry) (extractors : List Extractor) : Registry :=
  extractors.foldl register registry

/-- The last of some extractors that is of a kind. -/
def lastOf? (extractors : List Extractor) (kind : Kind) : Option Extractor :=
  extractors.reverse.find? fun extractor => extractor.kind = kind

/-- A registry holds one extractor for a kind at most. -/
def IsSingle (registry : Registry) : Prop :=
  (registry.extractors.map Extractor.kind).Nodup

theorem lastOf?_cons (extractor : Extractor) (later : List Extractor) (kind : Kind) :
    lastOf? (extractor :: later) kind =
      (lastOf? later kind).or (if extractor.kind = kind then some extractor else none) := by
  rw [lastOf?, List.reverse_cons, List.find?_append, lastOf?]
  by_cases same : extractor.kind = kind <;> simp [same]

theorem lastOf?_append (first second : List Extractor) (kind : Kind) :
    lastOf? (first ++ second) kind = (lastOf? second kind).or (lastOf? first kind) := by
  rw [lastOf?, List.reverse_append, List.find?_append]
  rfl

theorem lastOf?_of_none {extractors : List Extractor} {kind : Kind}
    (none : ∀ extractor ∈ extractors, extractor.kind ≠ kind) :
    lastOf? extractors kind = Option.none := by
  rw [lastOf?, List.find?_eq_none]
  intro extractor member
  simpa using none extractor (List.mem_reverse.1 member)

theorem get?_empty (kind : Kind) : empty.get? kind = none := rfl

/-- A registration decides about its own kind and about no other. -/
theorem get?_register (registry : Registry) (extractor : Extractor) (kind : Kind) :
    (registry.register extractor).get? kind =
      if extractor.kind = kind then some extractor else registry.get? kind := by
  rw [register, get?, get?, List.find?_append, List.find?_filter]
  by_cases same : extractor.kind = kind
  · have replaced : registry.extractors.find? (fun held =>
        decide (decide (held.kind ≠ extractor.kind) = true ∧ decide (held.kind = kind) = true)) =
          none := by
      rw [List.find?_eq_none]
      intro held _
      simp [same]
    rw [replaced, if_pos same]
    simp [same]
  · have kept : (fun held : Extractor =>
        decide (decide (held.kind ≠ extractor.kind) = true ∧ decide (held.kind = kind) = true)) =
          fun held => decide (held.kind = kind) := by
      funext held
      by_cases isKind : held.kind = kind
      · simp [isKind, Ne.symm same]
      · simp [isKind]
    rw [kept, if_neg same]
    simp [same]

theorem isSingle_register {registry : Registry} (single : registry.IsSingle)
    (extractor : Extractor) : (registry.register extractor).IsSingle := by
  rw [IsSingle, register, List.map_append, List.nodup_append]
  refine ⟨?_, by simp, ?_⟩
  · exact single.sublist (List.filter_sublist.map Extractor.kind)
  · intro kind kept other isOther same
    obtain ⟨held, member, rfl⟩ := List.mem_map.1 kept
    have different : held.kind ≠ extractor.kind := of_decide_eq_true (List.mem_filter.1 member).2
    rw [List.map_singleton, List.mem_singleton] at isOther
    exact different (same.trans isOther)

/-! ## Sequences of registrations -/

theorem get?_registerAll (registry : Registry) (extractors : List Extractor) (kind : Kind) :
    (registry.registerAll extractors).get? kind =
      (lastOf? extractors kind).or (registry.get? kind) := by
  induction extractors generalizing registry with
  | nil => rfl
  | cons extractor later inductionHypothesis =>
      have first := inductionHypothesis (registry.register extractor)
      rw [get?_register] at first
      rw [lastOf?_cons, Option.or_assoc]
      refine first.trans (congrArg _ ?_)
      by_cases same : extractor.kind = kind <;> simp [same]

theorem isSingle_registerAll {registry : Registry} (single : registry.IsSingle)
    (extractors : List Extractor) : (registry.registerAll extractors).IsSingle := by
  induction extractors generalizing registry with
  | nil => exact single
  | cons extractor later inductionHypothesis =>
      exact inductionHypothesis (isSingle_register single extractor)

theorem Start.get?_registry (start : Start) (kind : Kind) :
    start.registry.get? kind = start.extractor? kind := by
  cases start with
  | empty => rfl
  | defaults => cases kind <;> rfl

/-- A start is itself a sequence of registrations. -/
theorem Start.registry_eq (start : Start) :
    start.registry = registerAll .empty start.extractors := by
  cases start <;> rfl

theorem Start.get?_registerAll (start : Start) (registered : List Extractor) (kind : Kind) :
    (start.registry.registerAll registered).get? kind =
      lastOf? (start.extractors ++ registered) kind := by
  rw [Registry.get?_registerAll, start.registry_eq, Registry.get?_registerAll, get?_empty,
    Option.or_none, lastOf?_append]

/-- What a registry holds and finds after registrations. -/
structure FindsLast (start : Start) (registered : List Extractor) (registry : Registry) :
    Prop where
  single : registry.IsSingle
  /-- The last extractor that was registered for a kind is found. -/
  last : ∀ before extractor behind, registered = before ++ extractor :: behind →
    (∀ later ∈ behind, later.kind ≠ extractor.kind) →
      registry.get? extractor.kind = some extractor
  /-- For a kind without a registration there is what the start has. -/
  otherwise : ∀ kind, (∀ extractor ∈ registered, extractor.kind ≠ kind) →
    registry.get? kind = start.extractor? kind
  /-- One more registration changes nothing for other kinds. -/
  apart : ∀ extractor kind, extractor.kind ≠ kind →
    (registry.register extractor).get? kind = registry.get? kind

theorem Start.findsLast (start : Start) (registered : List Extractor) :
    FindsLast start registered (start.registry.registerAll registered) := by
  refine ⟨?single, ?last, ?otherwise, fun extractor kind different => ?apart⟩
  case single =>
    have nothing : IsSingle .empty := List.nodup_nil
    rw [start.registry_eq]
    exact isSingle_registerAll (isSingle_registerAll nothing _) registered
  case last =>
    rintro before extractor behind rfl onlyOthers
    rw [Registry.get?_registerAll, lastOf?_append, lastOf?_cons, lastOf?_of_none onlyOthers,
      if_pos rfl]
    rfl
  case otherwise =>
    intro kind onlyOthers
    rw [Registry.get?_registerAll, lastOf?_of_none onlyOthers, Option.none_or,
      start.get?_registry]
  case apart => rw [get?_register, if_neg different]

end LibraryScout.Source.Registry

namespace LibraryScout.Assembly

open LibraryScout.Source LibraryScout.Source.Registry

/-! ## Documents -/

/-- What is made of a document depends on what a registry finds, and on nothing else about it. -/
theorem extractContext_congr {σ : Type} {first second : Registry}
    (alike : ∀ kind, first.get? kind = second.get? kind) (resolve : Resolver σ)
    (fileName text : String) :
    (⟨first, resolve⟩ : Assembler σ).extractContext fileName text =
      (⟨second, resolve⟩ : Assembler σ).extractContext fileName text := by
  unfold Assembler.extractContext
  simp only [alike]
  rfl

/-- Whatever was registered before, the last registration of a kind decides what a registry finds
for that kind. Two sequences of registrations with the same last one for every kind, unsupported
files among them, make the same of every document, whatever resolves its packages. -/
theorem last_registration_wins (start other : Start) (registered others : List Extractor) :
    FindsLast start registered (start.registry.registerAll registered) ∧
      ((∀ kind, lastOf? (start.extractors ++ registered) kind =
          lastOf? (other.extractors ++ others) kind) →
        (∀ kind, (start.registry.registerAll registered).get? kind =
          (other.registry.registerAll others).get? kind) ∧
        ∀ (σ : Type) (resolve : Resolver σ) (fileName text : String) (state : σ),
          (⟨start.registry.registerAll registered, resolve⟩ : Assembler σ).extractContext fileName
              text state =
            (⟨other.registry.registerAll others, resolve⟩ : Assembler σ).extractContext fileName
              text state) := by
  refine ⟨start.findsLast registered, fun sameLast => ?_⟩
  have alike : ∀ kind, (start.registry.registerAll registered).get? kind =
      (other.registry.registerAll others).get? kind := by
    intro kind
    rw [start.get?_registerAll, other.get?_registerAll]
    exact sameLast kind
  refine ⟨alike, fun σ resolve fileName text state => ?_⟩
  rw [extractContext_congr alike resolve fileName text]

/-- An extractor of unsupported files that finds a fixed identifier in every one of them. -/
def constantExtractor (identifier : String) : Extractor :=
  ⟨.unsupported, .js, fun _ => (.ofContext ⟨[identifier]⟩ .js, [])⟩

/-- A replaced extractor of unsupported files leaves no trace, and the order of the others does not
matter. -/
theorem last_registration_wins_unsupported :
    let replaced := [constantExtractor "a", constantExtractor "b"]
    let reversed := constantExtractor "b" :: Extractor.all.reverse
    (∀ kind, lastOf? (Start.defaults.extractors ++ replaced) kind =
        lastOf? (Start.empty.extractors ++ reversed) kind) ∧
      (⟨Registry.defaults.registerAll replaced, Script.resolver⟩ : Assembler Script).extractContext
          "notes.md" "text" (.ofAnswers []) =
        (⟨Registry.empty.registerAll reversed, Script.resolver⟩ : Assembler Script).extractContext
          "notes.md" "text" (.ofAnswers []) := by
  intro replaced reversed
  have sameLast : ∀ kind, lastOf? (Start.defaults.extractors ++ replaced) kind =
      lastOf? (Start.empty.extractors ++ reversed) kind := by
    intro kind
    cases kind <;> rfl
  have alike := (last_registration_wins .defaults .empty replaced reversed).2 sameLast
  exact ⟨sameLast, alike.2 Script Script.resolver "notes.md" "text" (.ofAnswers [])⟩

end LibraryScout.Assembly
