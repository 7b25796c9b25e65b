import LibraryScout.Log.Event

/-!
Contract: runs, computations over a state that report events.

A run takes a state to a result, the events it raised in order, and the state it leaves. The
state is always a value of a domain type: a script of replies, a tree of files, a queue of
answers. `within` lets a run over a part of a state act on the whole.
-/

namespace LibraryScout

/-- What one run over a state of type `σ` produced. -/
structure Ran (σ α : Type) where
  value : α
  events : List Log.Event
  state : σ

/-- A computation over a state that reports events. -/
def Run (σ α : Type) : Type :=
  σ → Ran σ α

namespace Run

variable {σ τ α β : Type}

def pure (value : α) : Run σ α :=
  fun state => ⟨value, [], state⟩

def bind (first : Run σ α) (next : α → Run σ β) : Run σ β :=
  fun state =>
    let done := first state
    let more := next done.value done.state
    ⟨more.value, done.events ++ more.events, more.state⟩

instance : Monad (Run σ) where
  pure := Run.pure
  bind := Run.bind

/-- Raises one event. -/
def report (event : Log.Event) : Run σ Unit :=
  fun state => ⟨(), [event], state⟩

/-- Raises events in order. -/
def reportAll (events : List Log.Event) : Run σ Unit :=
  fun state => ⟨(), events, state⟩

/-- The state as it is. -/
def read : Run σ σ :=
  fun state => ⟨state, [], state⟩

/-- Puts a new state in place of the old. -/
def write (state : σ) : Run σ Unit :=
  fun _ => ⟨(), [], state⟩

/-- A change of state with a result and without events. -/
def update (change : σ → α × σ) : Run σ α :=
  fun state =>
    let (value, next) := change state
    ⟨value, [], next⟩

/-- A run over a part of a state, as a run over the whole. -/
def within (part : τ → σ) (replace : σ → τ → τ) (inner : Run σ α) : Run τ α :=
  fun whole =>
    let done := inner (part whole)
    ⟨done.value, done.events, replace done.state whole⟩

@[simp] theorem pure_apply (value : α) (state : σ) :
    (Pure.pure value : Run σ α) state = ⟨value, [], state⟩ := rfl

@[simp] theorem bind_apply (first : Run σ α) (next : α → Run σ β) (state : σ) :
    (first >>= next) state =
      ⟨(next (first state).value (first state).state).value,
        (first state).events ++ (next (first state).value (first state).state).events,
        (next (first state).value (first state).state).state⟩ := rfl

@[simp] theorem report_apply (event : Log.Event) (state : σ) :
    (report event : Run σ Unit) state = ⟨(), [event], state⟩ := rfl

@[simp] theorem reportAll_apply (events : List Log.Event) (state : σ) :
    (reportAll events : Run σ Unit) state = ⟨(), events, state⟩ := rfl

@[simp] theorem read_apply (state : σ) : (read : Run σ σ) state = ⟨state, [], state⟩ := rfl

@[simp] theorem write_apply (new old : σ) :
    (write new : Run σ Unit) old = ⟨(), [], new⟩ := rfl

end Run

end LibraryScout
