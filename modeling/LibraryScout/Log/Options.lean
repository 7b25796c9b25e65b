import LibraryScout.Log.Event
import LibraryScout.Settings.Basic
import LibraryScout.Text.Blank
import LibraryScout.Text.Lowercase

/-!
Contract: how much is logged, and in which form.

Owns:
- reading the name of a level, with a note on names that are none;
- the three presets: plain lines, lines that name the origin, and data with all there is;
- the choice of a preset from the command line and the environment.
-/

namespace LibraryScout.Log

open LibraryScout.Settings (Environment)

/-- The level that a name stands for, white space and case aside. -/
def Severity.ofName? (text : String) : Option Severity :=
  match Text.lowercased (Text.trimmed text) with
  | "trace" => some .trace
  | "debug" => some .debug
  | "info" => some .info
  | "warn" => some .warn
  | "warning" => some .warn
  | "error" => some .error
  | _ => none

/-- What is said about a name that stands for no level. -/
def unknownLevelNote (text : String) : String :=
  "Invalid log level '" ++ text ++
    "', defaulting to INFO. Valid levels: trace, debug, info, warn, error"

/-- A level by name, and the note on a name that stands for none. -/
def parseLevel (text : String) : Severity × List String :=
  match Severity.ofName? text with
  | some severity => (severity, [])
  | none => (.info, [unknownLevelNote text])

/-- How much is logged, and in which form. -/
structure Options where
  level : Severity
  json : Bool
  target : Bool
  location : Bool
  threadIds : Bool
deriving DecidableEq, Repr

namespace Options

/-- Plain lines. -/
def plain (level : Severity) : Options :=
  ⟨level, false, false, false, false⟩

/-- Lines that name the origin of an event. -/
def development (level : Severity) : Options :=
  ⟨level, false, true, false, false⟩

/-- Data with everything that is known about an event. -/
def structured (level : Severity) : Options :=
  ⟨level, true, true, true, true⟩

/-- The level that the environment asks for, and the note on a name that is none. -/
def environmentLevel (environment : Environment) : Severity × List String :=
  match environment.get? "COMPASS_LOG_LEVEL" with
  | some text => parseLevel text
  | none => (.info, [])

/-- The environment asks for data. -/
def environmentJson (environment : Environment) : Bool :=
  environment.get? "COMPASS_LOG_JSON" == some "true"

/-- The options for one command line, with the notes on level names. An explicit level wins over
the environment, whose level is read nevertheless. -/
def forCommandLine (environment : Environment) (level? : Option Severity) (verbose : Bool) :
    Options × List String :=
  let (environmentLevel, notes) := environmentLevel environment
  let level := level?.getD environmentLevel
  let options :=
    if environmentJson environment then structured level
    else if verbose then development level
    else plain level
  (options, notes)

end Options

end LibraryScout.Log
