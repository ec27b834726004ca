import Intercept.EventLog
import Intercept.Inspector.Report

/-!
# The inspector as a program

What the inspector writes to its two channels, and the code with which it ends.
-/

namespace Intercept.Inspector

/-- How a program ended, and what it wrote. -/
structure Finished where
  code : Nat
  output : Bytes := []
  errors : Bytes := []
  deriving DecidableEq, Repr

/-- The lines that tell how the inspector is called. -/
def helpText : String :=
  "Inspect the results log written by the cctrap compiler trap\n\n" ++
  "Usage: cctrap-results [OPTIONS] <COMMAND>\n\n" ++
  "Commands:\n" ++
  "  sources  List the source files compiled during the build, in log order\n" ++
  "  records  Show every logged invocation with its command line\n" ++
  "  config   Show the host compiler and results log compiled into cctrap\n" ++
  "  help     Print this message or the help of the given subcommand(s)\n\n" ++
  "Options:\n" ++
  "      --format <FORMAT>        [default: plain] [possible values: plain, json]\n" ++
  "      --log-level <LOG_LEVEL>  [default: warn] " ++
    "[possible values: error, warn, info, debug, trace]\n" ++
  "  -h, --help                   Print help\n" ++
  "  -V, --version                Print version\n"

/-- What is wrong with the arguments, or what they ask to be shown. -/
def Usage.text : Usage → String
  | help => helpText
  | version => "cctrap-results 0.1.0\n"
  | nothingAsked => helpText
  | missingCommand => "error: a subcommand is required but one was not provided\n"
  | unknownCommand => "error: unrecognized subcommand\n"
  | unknownArgument => "error: unexpected argument found\n"
  | invalidValue => "error: invalid value for an argument\n"
  | repeated => "error: an argument cannot be used multiple times\n"
  | needlessValue => "error: unexpected value for an argument\n"

/-- What the arguments come to that ask for no report. What was asked for is output, a mistake is
an error. -/
def Usage.finished (usage : Usage) : Finished :=
  let text := Bytes.ofString usage.text
  if usage.exitCode = 0 then { code := 0, output := text }
  else { code := usage.exitCode, errors := text }

/-- The filter of the events: the one from the environment, if it is one, or else the level. There
is none if a character of the text would have to be divided. -/
def shownEvents? (filterText : Option String) (level : Level) : Option EventLog.Filter :=
  match filterText.map EventLog.Filter.ofText with
  | some (.ok filter) => some filter
  | some (.error .dividedCharacter) => none
  | _ => some (.upTo level)

/-- What the inspector does with its arguments, given the text of a filter from the environment,
how files are read, and whether its output is a terminal. -/
def run (filterText : Option String) (readFile : Bytes → Except Fault Bytes) (build : Build)
    (terminal : Bool) (arguments : List Bytes) : Finished :=
  match Request.ofArguments arguments with
  | .error usage => usage.finished
  | .ok request =>
    match shownEvents? filterText request.level with
    | none => { code := EventLog.failureCode }
    | some filter =>
      let r := report readFile build terminal request
      let told := EventLog.lines filter r.events
      match r.failure with
      | none => { code := 0, output := r.output, errors := Bytes.ofString told }
      | some failure =>
        { code := 1
          output := r.output
          errors := Bytes.ofString (told ++ s!"Error: {failure.message}\n") }

/-- The path of the log that the arguments ask to be read. -/
def logOf (build : Build) (arguments : List Bytes) : Option Bytes :=
  match Request.ofArguments arguments with
  | .error _ => none
  | .ok request =>
    match request.command with
    | .sources file _ => some (file.getD build.settings.results)
    | .records file => some (file.getD build.settings.results)
    | .config => none

end Intercept.Inspector
