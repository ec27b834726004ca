import Intercept.EventLog
import Intercept.Host.Standard
import Intercept.Inspector.Program
import Intercept.Shell.Evaluation
import Intercept.Trap

/-!
# The host system

A host system is a file tree, the directory in which programs are started, and their environment.
Programs are started by name, and the command interpreter is one of them. `Host.shellWorld` is the
world of a trap on a host system: its log is a file, its sources are looked up in the tree, and its
commands are given to the command interpreter.
-/

namespace Intercept

structure Host where
  tree : Files.Tree
  directory : Files.Place
  environment : List (Bytes × Bytes)

namespace Host

/-- The number of nested steps after which a program is taken to run for ever. -/
def stepLimit : Nat := 50000

/-- The process number of the program that starts others. -/
def ownNumber : Nat := 4000

/-- A host system with an empty directory to work in. -/
def standard : Host :=
  { tree := standardTree
    directory := workPlace
    environment := [("PATH", Shell.standardPath), ("HOME", Bytes.ofString "/root"),
      ("LC_ALL", Bytes.ofString "C"), ("PWD", Bytes.ofString "/tmp/work")].map
        fun (name, value) => (Bytes.ofString name, value) }

/-- What a program leaves: the tree, what it wrote, and how it ended. -/
structure Launched where
  tree : Files.Tree
  output : Bytes
  errors : Bytes
  status : WaitStatus
  /-- The signal with which it killed the program that started it, if it did. -/
  callerSignal : Option Nat := none

/-- The time between two things that are done on the host system. -/
def tick : Nat := 4000000

/-- The host system at a later time. -/
def later (host : Host) : Host :=
  { host with tree := { host.tree with now := host.tree.now + tick } }

/-- The program that starts others, as a process. Its input is empty, and messages lead nowhere
unless they are `heard`. -/
def caller (host : Host) (heard : Bool) : Shell.Process :=
  let nothing : Shell.OpenFile := { place := placeOf "dev/null", reads := true, writes := true }
  { system := { tree := host.tree, streams := #[{}, {}, {}], files := #[nothing],
                processes := ownNumber }
    number := ownNumber
    shellNumber := ownNumber
    directory := host.directory
    name := []
    channels := [(0, .file 0), (1, .writing 1), (2, if heard then .writing 2 else .file 0)] }

/-- The file tree as the program sees it that starts others. -/
def view (host : Host) : Files.Tree := (host.caller false).tree

/-- The host system after a change of the tree that it sees. -/
def withView (host : Host) (tree : Files.Tree) : Host :=
  { host with tree := ((host.caller false).setTree tree).system.tree }

/-- What is started for the first of some paths for which that is possible. A path that leads
nowhere is passed over, and one that may not be executed is told of if there is no other. -/
def firstStart (start : Bytes → Except Errno Shell.Program) (denied : Bool) :
    List Bytes → Except Errno Shell.Program
  | [] => .error (if denied then .permissionDenied else .noSuchFile)
  | path :: paths =>
    match start path with
    | .ok program => .ok program
    | .error errno =>
      if errno.isAbsence || errno = .permissionDenied then
        firstStart start (denied || errno = .permissionDenied) paths
      else .error errno

/-- What is started for the name of a program. -/
def programFor (host : Host) (name : Bytes) (arguments : List Bytes) :
    Except Errno Shell.Program :=
  let start (path : Bytes) : Except Errno Shell.Program :=
    Shell.Program.ofPath host.view host.directory path name arguments Shell.interpreterLimit
  let searched := (host.environment.lookup (Bytes.ofString "PATH")).getD []
  if name.contains Bytes.slash then start name
  else if name = [] then .error .noSuchFile
  else firstStart start false (Shell.candidates searched name)

/-- Whether a job may still write what is waited for. -/
def isHeard (p : Shell.Process) (_ : Shell.Sleeper) : Bool :=
  p.system.sleepers.any fun sleeper => sleeper.course.channels.any fun (_, channel) =>
    channel = .writing 1 || channel = .writing 2

/-- Starts a program, and waits for its end and for that of all that may write where it does. -/
def launch (host : Host) (heard : Bool) (name : Bytes) (arguments : List Bytes) :
    Except Cause Launched := do
  if name.contains 0 || arguments.any (·.contains 0) then .error .nulInArgument
  else
    let program ← (host.programFor name arguments).mapError .numbered
    let child := (host.caller heard).copy.become program host.environment
    let (result, after) := (Shell.runProgram stepLimit program).runFrom child
    let status : WaitStatus := match result with
      | .ok status => status
      | .error (.killed signal) => .signalled signal
      | .error _ => .unknown
    let (_, settled) := (Shell.wakeWhile stepLimit isHeard).runFrom after
    .ok
      { tree := settled.system.tree
        output := settled.stream 1
        errors := settled.stream 2
        status
        callerSignal := after.system.doomed.lookup ownNumber }

/-- A host system in the course of its work: what its programs have written so far. -/
structure Running where
  host : Host
  /-- Whether messages are waited for. -/
  heard : Bool := false
  output : Bytes := []
  errors : Bytes := []
  /-- What the log has come to where messages go. -/
  logged : Bytes := []
  callerSignal : Option Nat := none

/-- The program that commands are given to, and the option behind which it takes one. -/
structure Interpreter where
  program : String := "sh"
  option : String := "-c"

/-- Gives a command to the interpreter. -/
def execute (interpreter : Interpreter) (command : Bytes) (running : Running) :
    Trap.Execution × Running :=
  let arguments := [Bytes.ofString interpreter.option, command]
  let launched := running.host.launch running.heard (Bytes.ofString interpreter.program) arguments
  let execution :=
    Trap.Execution.byInterpreter interpreter.program command (launched.map (·.status))
  match launched with
  | .error _ => (execution, running)
  | .ok launched =>
    (execution,
      { running with
        host := { running.host with tree := launched.tree }
        output := running.output ++ launched.output
        errors := running.errors ++ launched.errors
        callerSignal := running.callerSignal <|> launched.callerSignal })

/-- Appends a record to the log in a file, which may be one of the streams that others read. -/
def append (results : Bytes) (r : Record) (running : Running) : Except Fault Unit × Running :=
  let host := running.host
  let seen := (host.caller running.heard).tree
  match seen.findToWrite host.directory results, seen.append host.directory results r.toBytes with
  | .ok (.node _ (.stream 1)), _ =>
    (.ok (), { running with output := running.output ++ r.toBytes })
  | .ok (.node _ (.stream _)), _ =>
    (.ok (), { running with logged := running.logged ++ r.toBytes })
  | _, .ok tree => (.ok (), { running with host := host.withView tree })
  | _, .error cause => (.error (.file cause), running)

/-- A host system as the world of a trap with a log in a file. -/
def world (interpreter : Interpreter) (results : Bytes) : Trap.Surroundings Running :=
  { names := fun running => running.host.view.names running.host.directory
    append := append results
    execute := execute interpreter }

/-- The contents of a file. -/
def fileContents (host : Host) (path : Bytes) : Except Fault Bytes :=
  (host.view.read host.directory path).mapError .file

/-- The records of a log in a file. -/
def readLog (host : Host) (path : Bytes) : Except Fault (List Record) := do
  (Log.read (← host.fileContents path)).mapError .malformed

/-- One invocation of the trap with the given settings. -/
def runTrap (settings : Settings) (tokens : List Bytes) (running : Running) :
    Trap.Outcome × Running :=
  let (outcome, after) := Trap.run (world {} settings.results) (Bytes.ofString settings.host)
    tokens running
  ({ outcome with events := .configured settings.host settings.results :: outcome.events }, after)

/-- The host system with a variable for all programs. -/
def setting (host : Host) (name : String) (value : Bytes) : Host :=
  let others := host.environment.filter (·.1 ≠ Bytes.ofString name)
  { host with environment := others ++ [(Bytes.ofString name, value)] }

/-- How a program ended that another program may have killed, and what it wrote. -/
structure Ended where
  /-- The code with which it ended, unless it was killed. -/
  code : Option Nat
  output : Bytes
  errors : Bytes

/-- The trap as a program of its own, built with the settings of the inspector's build, that shows
the events of a filter: some before the command is logged, others after that, and the last after
what the command wrote. -/
def filteredTrap (host : Host) (filter : EventLog.Filter) (tokens : List Bytes) : Ended × Host :=
  let (outcome, after) :=
    runTrap Inspector.Build.installed.settings tokens { host, heard := true }
  let isLate : Event → Bool
    | .finished _ | .notExecuted _ => true
    | _ => false
  let isMiddle : Event → Bool
    | .notLogged _ | .delegating _ => true
    | _ => false
  let shown (choose : Event → Bool) : Bytes :=
    Bytes.ofString (EventLog.lines filter (outcome.events.filter choose))
  let early := shown fun event => !isLate event && !isMiddle event
  let errors := early ++ after.logged ++ shown isMiddle ++ after.errors
  match after.callerSignal with
  | some _ => ({ code := none, output := after.output, errors }, after.host)
  | none =>
    ({ code := some outcome.exitCode
       output := after.output
       errors := errors ++ shown isLate }, after.host)

/-- The trap as a program of its own. Events are shown where the text of a filter is given, which
the command sees too; the trap fails if a character of the text would have to be divided. -/
def trapProgram (filterText : Option String) (tokens : List Bytes) (host : Host) :
    Ended × Host :=
  match filterText with
  | none => host.filteredTrap [] tokens
  | some text =>
    let given := host.setting EventLog.filterVariable (Bytes.ofString text)
    match EventLog.Filter.ofText text with
    | .ok filter => given.filteredTrap filter tokens
    | .error .malformed => given.filteredTrap [] tokens
    | .error .dividedCharacter =>
      ({ code := some EventLog.failureCode, output := [], errors := [] }, given)

/-- The inspector as a program of its own. Its output is not a terminal. -/
def inspectorProgram (filterText : Option String) (arguments : List Bytes) (host : Host) :
    Ended :=
  let finished := Inspector.run filterText host.fileContents .installed false arguments
  { code := some finished.code, output := finished.output, errors := finished.errors }

/-! ## Setting up a place to work in -/

/-- Changes the tree, if that is possible. -/
def change (host : Host) (f : Files.Tree → Except Cause Files.Tree) : Except Cause Host :=
  (f host.view).map host.withView

/-- Writes a file, with the directories on the way to it. -/
def writeFile (host : Host) (path contents : Bytes) : Except Cause Host :=
  let (parent, _) := Files.cutLast path
  host.change fun tree =>
    (tree.makeDirectories host.directory parent).overwrite host.directory path contents

/-- Gives rights to the file at a path. -/
def setMode (host : Host) (path : Bytes) (mode : Nat) : Except Cause Host :=
  host.change fun tree =>
    .ok (((tree.node? host.directory path).map fun (place, _) => tree.setMode place mode).getD tree)

/-- A C file that a compiler accepts. -/
def sampleSource : Bytes := Bytes.ofString "int main(void) \x7b return 0; \x7d\n"

/-- The path of a fake compiler. -/
def compilerPath (name : String) : Bytes := Bytes.ofString s!"bin/{name}"

/-- The path of the file in which a fake compiler keeps its arguments. -/
def argumentsPath (name : String) : Bytes := Bytes.ofString s!"bin/{name}.args"

/-- A script that writes its arguments to a file, a line each, and goes on with its last line. -/
def compilerScript (file : Bytes) (lastLine : String) : Bytes :=
  Bytes.ofString "#!/bin/sh\nfor arg in \"$@\"; do printf '%s\\n' \"$arg\"; done > '" ++ file ++
    Bytes.ofString s!"'\n{lastLine}\n"

/-- Puts a fake compiler into the directory `bin`. -/
def installCompiler (host : Host) (name lastLine : String) : Except Cause Host :=
  let file := Files.placeText host.directory ++ Bytes.slash :: argumentsPath name
  (host.writeFile (compilerPath name) (compilerScript file lastLine)).bind fun host =>
    host.setMode (compilerPath name) 0o755

/-- The host system as programs see it that look for others in the directory `bin` first, and are to
show no colours. -/
def withBin (host : Host) : Host :=
  let searched := Files.placeText host.directory ++ Bytes.ofString "/bin:" ++ Shell.standardPath
  (host.setting "PATH" searched).setting "NO_COLOR" (Bytes.ofString "1")

end Host

end Intercept
