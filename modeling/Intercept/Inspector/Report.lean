import Intercept.Inspector.Request
import Intercept.Log
import Intercept.Settings

/-!
# What the inspector prints

Plain output writes sources and commands byte for byte, a line each; JSON output shows them as text.
-/

namespace Intercept.Inspector

/-- How a trap was built: its settings, and which of them are no defaults. -/
structure Build where
  settings : Settings
  hostChosen : Bool
  resultsChosen : Bool
  deriving DecidableEq, Repr

/-- The build that the inspector belongs to. -/
def Build.installed : Build :=
  { settings := { results := Bytes.ofString "results.txt" }
    hostChosen := false
    resultsChosen := true }

/-- The value over lines, and the end of the last line. -/
def jsonLines (value : Json) : Bytes := Bytes.ofString (value.spread ++ "\n")

/-- The sources that are new where they stand, given those that have been seen before. -/
def unseen (seen : List Bytes) : List Bytes → List Bytes
  | [] => []
  | source :: rest =>
    if source ∈ seen then unseen seen rest else source :: unseen (source :: seen) rest

/-- The sources that are listed: all of them, or each at its first place only. -/
def listed (unique : Bool) (rs : List Record) : List Bytes :=
  if unique then unseen [] (Record.sources rs) else Record.sources rs

def printSources (format : OutputFormat) (sources : List Bytes) : Bytes :=
  match format with
  | .plain => sources.flatMap fun source => source ++ [Bytes.newline]
  | .json => jsonLines (.arr (sources.map fun source => .str (Utf8.text source)))

/-- The word for an absent source, dimmed on a terminal. -/
def absentWord (terminal : Bool) : Bytes :=
  if terminal then
    [0x1B, 0x5B, 0x32, 0x6D] ++ Record.absent ++ [0x1B, 0x5B, 0x30, 0x6D]
  else Record.absent

/-- A record on one line: its source, a tab, and its command. -/
def recordLine (terminal : Bool) (r : Record) : Bytes :=
  r.source.getD (absentWord terminal) ++ Bytes.tab :: r.command ++ [Bytes.newline]

def printRecords (format : OutputFormat) (terminal : Bool) (rs : List Record) : Bytes :=
  match format with
  | .plain => rs.flatMap (recordLine terminal)
  | .json => jsonLines (.arr (rs.map Record.toJson))

/-- The settings on two lines, and a hint where one of them is a default. -/
def printConfig (format : OutputFormat) (build : Build) : Except Settings.NotJson Bytes :=
  match format with
  | .plain =>
    let hint :=
      if build.hostChosen && build.resultsChosen then ""
      else "(defaults in use; set CCTRAP_HOST_COMPILER / CCTRAP_RESULTS_FILE when building)\n"
    let host := s!"host compiler: {build.settings.host}\n"
    let results := s!"results file:  {Utf8.text build.settings.results}\n"
    .ok (Bytes.ofString (host ++ results ++ hint))
  | .json => do
    let fields ← build.settings.fields
    .ok (jsonLines (.obj (fields ++
      [("host_compiler_from_env", .bool build.hostChosen),
        ("results_path_from_env", .bool build.resultsChosen)])))

/-- Why a request could not be met. -/
inductive Failure where
  | unreadable (path : Bytes) (fault : Fault)
  | notJson (e : Settings.NotJson)
  deriving DecidableEq, Repr

/-- What is said of a failure, from the request down to its cause. -/
def Failure.message : Failure → String
  | unreadable path fault =>
    String.intercalate ": " (s!"Failed to read results log {Utf8.text path}" :: fault.chain)
  | notJson e => e.message

/-- What comes of a request. -/
structure Report where
  output : Bytes := []
  events : List Event := []
  failure : Option Failure := none
  deriving DecidableEq, Repr

/-- Reads the named log, or else the one of the build, and reports on its records. -/
def onLog (readFile : Bytes → Except Fault Bytes) (build : Build) (file : Option Bytes)
    (print : List Record → Bytes) : Report :=
  let path := file.getD build.settings.results
  let records := do
    let contents ← readFile path
    (Log.read contents).mapError Fault.malformed
  match records with
  | .ok rs => { output := print rs, events := [.readingLog path] }
  | .error fault => { events := [.readingLog path], failure := some (.unreadable path fault) }

/-- Meets a request, given how files are read and whether the output is a terminal. -/
def report (readFile : Bytes → Except Fault Bytes) (build : Build) (terminal : Bool)
    (request : Request) : Report :=
  match request.command with
  | .sources file unique =>
    onLog readFile build file fun rs => printSources request.format (listed unique rs)
  | .records file => onLog readFile build file (printRecords request.format terminal)
  | .config =>
    match printConfig request.format build with
    | .ok output => { output }
    | .error e => { failure := some (.notJson e) }

end Intercept.Inspector
