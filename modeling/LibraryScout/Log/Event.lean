/-!
Contract: events, the program's reports about its own work.

An event has a severity, the part of the program that raised it, a message and named values. A
computation hands its events back beside its result, in the order in which they were raised;
whether they are shown, and how, is decided elsewhere.
-/

namespace LibraryScout.Log

/-- How grave an event is, the gravest first. -/
inductive Severity where
  | error
  | warn
  | info
  | debug
  | trace
deriving DecidableEq, Repr

namespace Severity

/-- The name of a severity as it stands in front of an event. -/
def label : Severity → String
  | error => "ERROR"
  | warn => "WARN"
  | info => "INFO"
  | debug => "DEBUG"
  | trace => "TRACE"

/-- The name of a severity in settings and on the command line. -/
def name : Severity → String
  | error => "error"
  | warn => "warn"
  | info => "info"
  | debug => "debug"
  | trace => "trace"

/-- Severities counted from the gravest. -/
def rank : Severity → Nat
  | error => 1
  | warn => 2
  | info => 3
  | debug => 4
  | trace => 5

/-- Every severity, the gravest last. -/
def all : List Severity :=
  [trace, debug, info, warn, error]

end Severity

/-- The parts of the program that raise events. -/
inductive Origin where
  | javaImports
  | pom
  | packageManifest
  | assembly
  | scan
  | settings
  | backend
  | program
deriving DecidableEq, Repr

namespace Origin

/-- The path under which a part of the program is named in logs and in log filters. -/
def path : Origin → String
  | javaImports => "code_compass::extract::java"
  | pom => "code_compass::extract::maven"
  | packageManifest => "code_compass::extract::package_json"
  | assembly => "code_compass::assembler"
  | scan => "code_compass::scan"
  | settings => "code_compass::config"
  | backend => "code_compass::backend::client"
  | program => "compass"

end Origin

/-- The value of a named field. -/
inductive FieldValue where
  | text (value : String)
  | count (value : Nat)
deriving DecidableEq, Repr

structure Event where
  severity : Severity
  origin : Origin
  message : String
  fields : List (String × FieldValue)
deriving DecidableEq, Repr

namespace Event

def error (origin : Origin) (message : String) : Event :=
  ⟨.error, origin, message, []⟩

def warn (origin : Origin) (message : String) : Event :=
  ⟨.warn, origin, message, []⟩

def info (origin : Origin) (message : String) : Event :=
  ⟨.info, origin, message, []⟩

/-- The event with one more field, which holds a text. -/
def withText (event : Event) (field value : String) : Event :=
  { event with fields := event.fields ++ [(field, .text value)] }

/-- The event with one more field, which holds a number. -/
def withCount (event : Event) (field : String) (value : Nat) : Event :=
  { event with fields := event.fields ++ [(field, .count value)] }

/-- An event that tells of a failure or of a doubt. -/
def isAlarm (event : Event) : Bool :=
  event.severity.rank ≤ Severity.warn.rank

end Event

end LibraryScout.Log
