import Monthwise.CommandLine.Arguments
import Monthwise.Journal.Session

/-! # A run of the command line

From the words of a command line and the environment to the lines that are
printed and the exit code.
-/

namespace Monthwise.CommandLine

/-- What a run leaves behind. -/
structure Outcome where
  code : Nat
  output : List String := []
  errors : List String := []
deriving DecidableEq, Repr

/-- The wording of a mistake on the command line. -/
def UsageError.message : UsageError → String
  | .nothing => About.description
  | .missingCommand => s!"'{About.program}' requires a subcommand but one was not provided"
  | .unknownCommand word => s!"unrecognized subcommand '{word}'"
  | .unexpectedArgument word => s!"unexpected argument '{word}' found"
  | .unexpectedValue value option =>
    s!"unexpected value '{value}' for '{option}' found; no more were expected"
  | .missingArguments => "the following required arguments were not provided:"
  | .invalidValue value parameter cause =>
    s!"invalid value '{value}' for '{parameter.shown}': {cause.message}"
  | .missingValue setting => s!"a value is required for '{setting.shown}' but none was supplied"
  | .repeated setting => s!"the argument '{setting.shown}' cannot be used multiple times"

/-- How the program is called. -/
def usageLines : List String :=
  [About.description, "", s!"Usage: {About.program} [OPTIONS] <COMMAND>", "",
    "Commands: ping, version, months, reduce, subtract, covered, json, help",
    "Options: --log-level <LOG_LEVEL>, --log-dir <LOG_DIR>, -h, --help, -V, --version"]

/-- What is left behind if no command is run. A call without any words is answered by the usage,
but as a mistake. -/
def Halt.outcome : Halt → Outcome
  | .help => { code := 0, output := usageLines }
  | .version => { code := 0, output := [s!"{About.program} {About.version}"] }
  | .usage .nothing => { code := 2, errors := usageLines }
  | .usage e =>
    { code := 2, errors := [s!"error: {e.message}", "", "For more information, try '--help'."] }

/-- A refusal outside of the command line itself. -/
def failure (text : String) : Outcome := { code := 1, errors := [s!"{About.program}: {text}"] }

/-- The settings and the command of a run, as far as words and environment decide: the variables
first, then what the words ask for. -/
def plan (words : List String) (environment : String → Option String) (build : Build := .debug) :
    Except Outcome (Settings × Command) := do
  let invocation ← (parse words).mapError Halt.outcome
  let settings ← (Settings.ofVariables environment build).mapError fun e => failure e.message
  let settings ← (settings.override invocation.level invocation.directory).mapError
    fun e => failure e.message
  return (settings, invocation.command)

/-- The outcome once it is known whether the journal was started. -/
def finish (started : Except JournalError Unit) (command : Command) : Outcome :=
  match started with
  | .error e => failure e.message
  | .ok () => { code := 0, output := command.lines }

/-- A run in given surroundings. -/
def run (s : Session) (words : List String) (environment : String → Option String)
    (build : Build := .debug) : Outcome × Session :=
  match plan words environment build with
  | .error outcome => (outcome, s)
  | .ok (settings, command) =>
    let (started, s) := s.initFrom settings
    match started with
    | .ok () => (finish started command, s.note (.commanded command))
    | .error _ => (finish started command, s)

end Monthwise.CommandLine
