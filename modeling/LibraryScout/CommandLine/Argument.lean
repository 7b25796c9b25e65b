import LibraryScout.Number.Basic
import LibraryScout.Report
import LibraryScout.Source.Language

/-!
Contract: the arguments and subcommands of the command line.

Owns:
- why a command line runs no command, and the exit code that goes with it;
- the arguments, how each is written and which values it takes;
- the subcommands and the arguments that each one takes.

Does not own: reading a command line.
-/

namespace LibraryScout.CommandLine

open LibraryScout.Source

/-! ## Refusals -/

inductive Refusal where
  /-- The help text was asked for. -/
  | help
  /-- The version was asked for. -/
  | version
  /-- Nothing at all was given. -/
  | nothingGiven
  | missingCommand
  | unknownCommand
  | unknownArgument
  | missingArgument
  /-- Two arguments exclude each other, or one that is allowed once was given twice. -/
  | conflict
  /-- A value is missing, empty where it must not be, or none of those allowed. -/
  | invalidValue
  /-- A value that should be a number is none. -/
  | malformedValue
  /-- A value was given to an argument that takes none. -/
  | unwantedValue
deriving DecidableEq, Repr

/-- Help and version end the program well when they were asked for. -/
def Refusal.exitCode : Refusal → Nat
  | help => 0
  | version => 0
  | _ => 2

/-! ## Arguments -/

/-- Everything that can be given on a command line. -/
inductive Argument where
  | logLevel
  | verbose
  | quiet
  | help
  | version
  | file
  | files
  | directory
  | language
  | message
  | format
  | intent
  | filter
  | num
  | maxDepth
  | maxFiles
  | hidden
  | server
  | proxy
  | timeout
  | module
deriving DecidableEq, Repr

/-- What an argument takes. -/
inductive Values where
  /-- Nothing: the argument is there or not. -/
  | flag
  /-- Nothing: the argument ends reading. -/
  | stop (refusal : Refusal)
  | text
  | path
  | oneOf (names : List String)
  | number
deriving Repr

namespace Values

/-- Whether one more argument follows as the value. -/
def isTaken : Values → Bool
  | flag => false
  | stop _ => false
  | _ => true

/-- Why a value is not among those allowed. -/
def refusal? (values : Values) (value : String) : Option Refusal :=
  match values with
  | path => if value = "" then some .invalidValue else none
  | oneOf names => if value ∈ names then none else some .invalidValue
  | number => if (Number.whole? value).isSome then none else some .malformedValue
  | _ => none

end Values

/-- The names of the output formats. -/
def formatNames : List (String × Report.Format) :=
  [("json", .json), ("yaml", .yaml), ("human", .human)]

namespace Argument

/-- The name after two hyphens; arguments that go by their place have none. -/
def long? : Argument → Option String
  | logLevel => some "log-level"
  | verbose => some "verbose"
  | quiet => some "quiet"
  | help => some "help"
  | version => some "version"
  | format => some "format"
  | intent => some "intent"
  | filter => some "filter"
  | num => some "num"
  | maxDepth => some "max-depth"
  | maxFiles => some "max-files"
  | hidden => some "hidden"
  | server => some "server"
  | proxy => some "proxy"
  | timeout => some "timeout"
  | module => some "module"
  | _ => none

/-- The letter after one hyphen. -/
def short? : Argument → Option Char
  | verbose => some 'v'
  | quiet => some 'q'
  | help => some 'h'
  | version => some 'V'
  | format => some 'f'
  | intent => some 'i'
  | num => some 'n'
  | _ => none

def values : Argument → Values
  | verbose => .flag
  | quiet => .flag
  | hidden => .flag
  | help => .stop .help
  | version => .stop .version
  | files => .path
  | directory => .path
  | language => .oneOf (Language.all.map Language.name)
  | format => .oneOf (formatNames.map Prod.fst)
  | num => .number
  | maxDepth => .number
  | maxFiles => .number
  | timeout => .number
  | _ => .text

/-- The argument may be given any number of times. -/
def repeats : Argument → Bool
  | files => true
  | _ => false

end Argument

inductive Subcommand where
  | classify
  | context
  | scan
  | suggest
  | categories
  | intents
  | libs
  | feedback
deriving DecidableEq, Repr

namespace Subcommand

def all : List Subcommand :=
  [classify, context, scan, suggest, categories, intents, libs, feedback]

def name : Subcommand → String
  | classify => "classify"
  | context => "context"
  | scan => "scan"
  | suggest => "suggest"
  | categories => "categories"
  | intents => "intents"
  | libs => "libs"
  | feedback => "feedback"

def ofName? (written : String) : Option Subcommand :=
  all.find? fun subcommand => subcommand.name = written

/-- The argument that goes by its place. -/
def positional : Subcommand → Argument
  | classify => .file
  | context => .files
  | scan => .directory
  | suggest => .file
  | categories => .file
  | intents => .language
  | libs => .language
  | feedback => .message

/-- A file that is only classified may have any name; one that is read needs a path. -/
def values (subcommand : Subcommand) (argument : Argument) : Values :=
  match subcommand, argument with
  | suggest, .file => .path
  | categories, .file => .path
  | _, _ => argument.values

/-- The arguments that go by name and belong to the subcommand alone. -/
def options : Subcommand → List Argument
  | classify => [.format]
  | context => [.format, .server, .proxy, .timeout]
  | scan => [.format, .maxDepth, .maxFiles, .hidden]
  | suggest => [.intent, .filter, .format, .server, .proxy, .timeout]
  | categories => [.num, .filter, .format, .server, .proxy, .timeout]
  | intents => [.format, .server, .proxy, .timeout]
  | libs => [.format, .server, .proxy, .timeout]
  | feedback => [.module, .server, .proxy, .timeout]

end Subcommand

end LibraryScout.CommandLine
