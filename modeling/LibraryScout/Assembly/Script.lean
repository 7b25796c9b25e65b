import LibraryScout.Assembly.Assembler

/-!
Contract: a resolver that gives prepared answers in order.

A script holds the answers that are left and the calls it has received. A call takes the first
answer that is left; where none is left, the call fails and is still recorded.
-/

namespace LibraryScout.Assembly

open LibraryScout.Source

/-- One call of a resolver. -/
structure Call where
  language : Language
  packages : List String
deriving DecidableEq, Repr

structure Script where
  answers : List (Except Backend.Error (List String))
  calls : List Call

namespace Script

/-- A script that has not been used. -/
def ofAnswers (answers : List (Except Backend.Error (List String))) : Script :=
  ⟨answers, []⟩

def remaining (script : Script) : Nat :=
  script.answers.length

/-- The failure of a call that finds no answer left. -/
def exhausted : Backend.Error :=
  .configuration "MockModuleResolver: No more responses in queue"

/-- Answers one call. -/
def answer (language : Language) (packages : List String) (script : Script) :
    Except Backend.Error (List String) × Script :=
  let calls := script.calls ++ [⟨language, packages⟩]
  match script.answers with
  | [] => (.error exhausted, ⟨[], calls⟩)
  | first :: later => (first, ⟨later, calls⟩)

/-- The resolver that a script is. -/
def resolver : Resolver Script :=
  fun language packages => Run.update (answer language packages)

/-- A script in one line. -/
def summary (script : Script) : String :=
  "MockModuleResolver \x7b remaining_responses: " ++ toString script.remaining ++ ", calls: " ++
    toString script.calls.length ++ " \x7d"

end Script

end LibraryScout.Assembly
