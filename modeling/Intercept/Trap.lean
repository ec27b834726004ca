import Intercept.Invocation
import Intercept.MemoryLog
import Intercept.WaitStatus

/-!
# The trap

A trap stands in for a compiler. It assembles the command line of the invocation, logs it, has it
executed, and hands on the exit code. Logging is done as well as it can be: whether or not the
record was kept, the command is executed, and its exit code is the result.

What a trap needs of the world is `Surroundings`, over any kind of world state. `Bench` is a world
that does as it is told and notes what it was asked, for setting up every combination of failures.
-/

namespace Intercept.Trap

/-- The exit code of an invocation whose command could not be executed. -/
def notExecutedCode : Int := 127

/-- What comes of a command that is given to be executed. -/
structure Execution where
  events : List Event
  result : Except Fault Int

/-- What comes of a command that is given to a command interpreter: the interpreter's exit code, or
that it could not be started. -/
def Execution.byInterpreter (program : String) (command : Bytes)
    (ended : Except Cause WaitStatus) : Execution :=
  match ended with
  | .error cause => { events := [.delegating command], result := .error (.spawn program cause) }
  | .ok status =>
    { events := [.delegating command, .finished status.exitCode], result := .ok status.exitCode }

/-- What a trap asks of a world with states in `σ`: whether a path names something, to append a
record to the log, and to execute a command. -/
structure Surroundings (σ : Type) where
  names : σ → Bytes → Bool
  append : Record → σ → Except Fault Unit × σ
  execute : Bytes → σ → Execution × σ

/-- What comes of one invocation. -/
structure Outcome where
  code : Int
  events : List Event
  deriving DecidableEq, Repr

/-- The code that the trap's own process ends with, which has eight bits. -/
def Outcome.exitCode (outcome : Outcome) : Nat := (outcome.code % 256).toNat

/-- An invocation that has been assembled and logged, if that was possible, and whose command is
still to be executed. -/
structure Begun where
  command : Bytes
  events : List Event
  deriving DecidableEq, Repr

/-- The first half of an invocation, up to its record in the log. -/
def begun {σ : Type} (world : Surroundings σ) (host : Bytes) (tokens : List Bytes) (start : σ) :
    Begun × σ :=
  let assembly := Invocation.assemble host (world.names start) tokens
  let (kept, logged) := world.append ⟨assembly.source, assembly.command⟩ start
  let notKept : List Event := match kept with
    | .ok () => []
    | .error fault => [.notLogged fault]
  ({ command := assembly.command, events := assembly.events ++ notKept }, logged)

/-- The second half of an invocation, in which its command is executed. -/
def Begun.finish {σ : Type} (begun : Begun) (world : Surroundings σ) (logged : σ) : Outcome × σ :=
  let (execution, done) := world.execute begun.command logged
  let (code, failed) : Int × List Event := match execution.result with
    | .ok code => (code, [])
    | .error fault => (notExecutedCode, [.notExecuted fault])
  ({ code, events := begun.events ++ execution.events ++ failed }, done)

/-- One invocation of the trap. -/
def run {σ : Type} (world : Surroundings σ) (host : Bytes) (tokens : List Bytes) (start : σ) :
    Outcome × σ :=
  let (begun, logged) := begun world host tokens start
  begun.finish world logged

/-- What a bench was asked. -/
inductive Request where
  | append (r : Record)
  | execute (command : Bytes)
  deriving DecidableEq, Repr

/-- A log in memory, and every request so far, first to last. -/
structure Bench where
  log : MemoryLog := {}
  requests : List Request := []
  deriving DecidableEq, Repr

/-- How one invocation on a bench is to go: which paths name something, whether the append fails,
and what the execution comes to. -/
structure Conditions where
  names : Bytes → Bool
  refusal : Option Fault := none
  execution : Execution

namespace Bench

def append (conditions : Conditions) (r : Record) (bench : Bench) : Except Fault Unit × Bench :=
  let asked := { bench with requests := bench.requests ++ [.append r] }
  match conditions.refusal with
  | some fault => (.error fault, asked)
  | none => (.ok (), { asked with log := bench.log.append r })

def execute (conditions : Conditions) (command : Bytes) (bench : Bench) : Execution × Bench :=
  (conditions.execution, { bench with requests := bench.requests ++ [.execute command] })

/-- A bench as a world. -/
def surroundings (conditions : Conditions) : Surroundings Bench :=
  { names := fun _ => conditions.names
    append := append conditions
    execute := execute conditions }

/-- The command that was executed last. -/
def lastCommand? (bench : Bench) : Option Bytes :=
  bench.requests.reverse.findSome? fun
    | .execute command => some command
    | .append _ => none

/-- Several invocations on one bench, each under its own conditions. -/
def runAll (host : Bytes) : List (Conditions × List Bytes) → Bench → List (Outcome × Bench)
  | [], _ => []
  | (conditions, tokens) :: rest, bench =>
    let (outcome, next) := Trap.run (surroundings conditions) host tokens bench
    (outcome, next) :: runAll host rest next

end Bench

end Intercept.Trap
