import LibraryScout.CommandLine.Argument
import LibraryScout.Settings.Configuration
import LibraryScout.Text.Lines

/-!
Contract: what is said when a command line runs no command.

The help names every subcommand with the arguments it takes, each as it is written; what a fault
says is followed by the way to the help.
-/

namespace LibraryScout.CommandLine

namespace Subcommand

def purpose : Subcommand → String
  | classify => "Show how a file name is classified"
  | context => "Extract the dependency context of a document"
  | scan => "Extract dependency contexts for every file in a directory"
  | suggest => "Suggest libraries for an intent"
  | categories => "Show the nearest library categories for a file"
  | intents => "List the intents the backend knows for a language"
  | libs => "List the libraries the backend knows for a language"
  | feedback => "Send feedback to the recommendation backend"

end Subcommand

namespace Argument

/-- How an argument is written, with a word in capitals for its value. -/
def shape (argument : Argument) : String :=
  let letter := match argument.short? with
    | some letter => "-" ++ String.singleton letter ++ ", "
    | none => ""
  match argument.long? with
  | some name => letter ++ "--" ++ name ++ (if argument.values.isTaken then " VALUE" else "")
  | none =>
      match argument with
      | files => "[FILES]..."
      | directory => "<DIR>"
      | language => "<LANGUAGE>"
      | message => "<MESSAGE>"
      | _ => "<FILE>"

end Argument

/-- The line of the help for a subcommand. -/
def Subcommand.helpLine (subcommand : Subcommand) : String :=
  "  " ++ Text.joined " " (subcommand.name :: subcommand.positional.shape ::
      subcommand.options.map fun argument => "[" ++ argument.shape ++ "]") ++
    "\n      " ++ subcommand.purpose

def usage : String :=
  "Usage: compass [OPTIONS] <COMMAND>"

def helpText : String :=
  Text.joined "\n"
    (["Extract dependency contexts from source files and query library recommendations", "", usage,
        "", "Commands:"] ++ Subcommand.all.map Subcommand.helpLine ++ ["", "Options:"] ++
      [Argument.logLevel, .verbose, .quiet, .help, .version].map fun argument =>
        "  " ++ argument.shape)

namespace Refusal

def reason : Refusal → String
  | help => helpText
  | version => "compass " ++ Settings.version
  | nothingGiven => helpText
  | missingCommand => "error: a subcommand is required but one was not provided"
  | unknownCommand => "error: unrecognized subcommand"
  | unknownArgument => "error: unexpected argument found"
  | missingArgument => "error: required arguments were not provided"
  | conflict => "error: an argument cannot be used multiple times or with another one"
  | invalidValue => "error: a value is missing or is not among the possible values"
  | malformedValue => "error: a value is not a whole number in range"
  | unwantedValue => "error: a value was given to an argument that takes none"

/-- What is printed: to the reader who asked for it, or about a fault. -/
def message (refusal : Refusal) : String :=
  if refusal.exitCode = 0 ∨ refusal = nothingGiven then
    refusal.reason
  else
    refusal.reason ++ "\n\n" ++ usage ++ "\n\nFor more information, try '--help'."

end Refusal

end LibraryScout.CommandLine
