import LibraryScout.CommandLine.Argument

/-!
Contract: reading command lines argument by argument.

Owns:
- the two levels of a command line, before and after the name of the subcommand;
- what one argument does: a name after two hyphens, letters after one, a value that a named
  argument awaits, or an argument that goes by its place; after two hyphens alone all go by place;
- the order in which faults come up: a value is looked at when the next argument begins, and an
  argument that is not known goes before a value that was not looked at.

Does not own: what the values mean.
-/

namespace LibraryScout.CommandLine

/-- The arguments before the subcommand's name, or those after it. -/
inductive Level where
  | top
  | within (subcommand : Subcommand)
deriving DecidableEq, Repr

namespace Level

/-- The arguments that go by name. -/
def options : Level → List Argument
  | top => [.logLevel, .verbose, .quiet, .help, .version]
  | within subcommand => subcommand.options ++ [.logLevel, .verbose, .quiet, .help]

def values (level : Level) (argument : Argument) : Values :=
  match level with
  | top => argument.values
  | within subcommand => subcommand.values argument

def named? (level : Level) (name : String) : Option Argument :=
  level.options.find? fun argument => argument.long? = some name

def lettered? (level : Level) (letter : Char) : Option Argument :=
  level.options.find? fun argument => argument.short? = some letter

end Level

/-- Arguments that were given, with their values. -/
abbrev Given :=
  List (Argument × List String)

namespace Given

def has (given : Given) (argument : Argument) : Bool :=
  given.any fun entry => entry.1 = argument

/-- The values of an argument. -/
def valuesOf (given : Given) (argument : Argument) : List String :=
  given.flatMap fun entry => if entry.1 = argument then entry.2 else []

/-- The value of an argument that takes one. -/
def value? (given : Given) (argument : Argument) : Option String :=
  (given.valuesOf argument).head?

end Given

/-- How far one level was read. -/
structure Progress where
  given : Given
  /-- The argument read last, with the values it has so far, which were not looked at. -/
  pending? : Option (Argument × List String)
  /-- The argument read last awaits its value. -/
  awaiting : Bool
  /-- The single argument that goes by its place was given. -/
  placed : Bool
  /-- Two hyphens came by themselves. -/
  onlyPlaces : Bool

namespace Progress

def start : Progress :=
  ⟨[], none, false, false, false⟩

/-- Takes an argument with its values. -/
def accept (level : Level) (progress : Progress) (argument : Argument) (given : List String) :
    Except Refusal Progress :=
  match level.values argument with
  | .stop refusal => .error refusal
  | .flag =>
      if progress.given.has argument then .error .conflict
      else .ok { progress with given := progress.given ++ [(argument, [])] }
  | rule =>
      if given = [] then .error .invalidValue
      else if progress.given.has argument && !argument.repeats then .error .conflict
      else
        match given.findSome? rule.refusal? with
        | some refusal => .error refusal
        | none => .ok { progress with given := progress.given ++ [(argument, given)] }

/-- Looks at the values of the argument read last. -/
def settle (level : Level) (progress : Progress) : Except Refusal Progress :=
  match progress.pending? with
  | none => .ok { progress with awaiting := false }
  | some (argument, values) =>
      accept level { progress with pending? := none, awaiting := false } argument values

/-- A named argument, with the value written next to it if there is one. -/
def takeNamed (level : Level) (progress : Progress) (argument : Argument)
    (attached? : Option String) : Except Refusal Progress := do
  let settled ← progress.settle level
  if (level.values argument).isTaken then
    match attached? with
    | some value => settled.accept level argument [value]
    | none => return { settled with pending? := some (argument, []), awaiting := true }
  else
    settled.accept level argument []

/-- An argument that starts with two hyphens. -/
def takeLong (level : Level) (progress : Progress) (body : List Char) :
    Except Refusal Progress :=
  let name := body.takeWhile fun character => character ≠ '='
  let attached? : Option String :=
    match body.dropWhile fun character => character ≠ '=' with
    | [] => none
    | _ :: value => some (String.ofList value)
  match level.named? (String.ofList name) with
  | none => .error .unknownArgument
  | some argument =>
      if attached?.isSome && !(level.values argument).isTaken then .error .unwantedValue
      else progress.takeNamed level argument attached?

/-- Letters after one hyphen. The first letter whose argument takes a value takes the other
letters as that value, without an equals sign in front. -/
def takeLetters (level : Level) (progress : Progress) : List Char → Except Refusal Progress
  | [] => .ok progress
  | letter :: later =>
      match level.lettered? letter with
      | none => .error .unknownArgument
      | some argument =>
          if (level.values argument).isTaken then
            match later with
            | [] => progress.takeNamed level argument none
            | '=' :: value => progress.takeNamed level argument (some (String.ofList value))
            | value => progress.takeNamed level argument (some (String.ofList value))
          else do
            let next ← progress.takeNamed level argument none
            takeLetters level next later

/-- An argument that goes by its place. -/
def takePlace (level : Level) (progress : Progress) (value : String) :
    Except Refusal Progress :=
  match level with
  | .top =>
      if progress.onlyPlaces && ((Subcommand.ofName? value).isSome || value == "help") then
        .error .unknownArgument
      else
        .error .unknownCommand
  | .within subcommand =>
      let argument := subcommand.positional
      match progress.pending? with
      | some (held, values) =>
          if held = argument ∧ argument.repeats then
            .ok { progress with pending? := some (argument, values ++ [value]) }
          else if progress.placed then
            .error .unknownArgument
          else do
            let settled ← progress.settle level
            return { settled with
              pending? := some (argument, [value]), placed := !argument.repeats }
      | none =>
          if progress.placed then .error .unknownArgument
          else
            .ok { progress with
              pending? := some (argument, [value]), placed := !argument.repeats }

/-- Takes one argument. -/
def take (level : Level) (progress : Progress) (written : String) : Except Refusal Progress :=
  if progress.onlyPlaces then
    progress.takePlace level written
  else
    match written.toList with
    | ['-', '-'] => .ok { progress with onlyPlaces := true }
    | '-' :: '-' :: body => progress.takeLong level body
    | '-' :: letter :: letters => progress.takeLetters level (letter :: letters)
    | _ =>
        match progress.awaiting, progress.pending? with
        | true, some (argument, values) =>
            .ok { progress with
              pending? := some (argument, values ++ [written]), awaiting := false }
        | _, _ => progress.takePlace level written

end Progress

/-- Verbose and quiet output exclude each other within a level. -/
def Given.checked (given : Given) : Except Refusal Given :=
  if given.has .verbose && given.has .quiet then .error .conflict else .ok given

/-- Reads the arguments after the name of a subcommand. -/
def readWithin (subcommand : Subcommand) (arguments : List String) : Except Refusal Given := do
  let read ← arguments.foldlM (fun progress written => progress.take (.within subcommand) written)
    Progress.start
  let settled ← read.settle (.within subcommand)
  settled.given.checked

/-- What was read before the subcommand, with its name and the arguments after it. -/
structure Split where
  before : Progress
  command? : Option (Subcommand × List String)

/-- The help subcommand takes the name of at most one subcommand, itself included. -/
def helpRefusal (arguments : List String) : Refusal :=
  match arguments with
  | [] => .help
  | [name] => if (Subcommand.ofName? name).isSome || name == "help" then .help else .unknownCommand
  | _ => .unknownCommand

/-- Reads arguments up to the name of a subcommand. -/
def readTop (progress : Progress) : List String → Except Refusal Split
  | [] => .ok ⟨progress, none⟩
  | written :: later =>
      let named := !progress.onlyPlaces && !progress.awaiting
      if named && written == "help" then
        .error (helpRefusal later)
      else
        match (if named then Subcommand.ofName? written else none) with
        | some subcommand => .ok ⟨progress, some (subcommand, later)⟩
        | none => do
            let next ← progress.take .top written
            readTop next later

end LibraryScout.CommandLine
