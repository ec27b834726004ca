import Intercept.Shell.Fields
import Intercept.Shell.Reader.Commands
import Intercept.Shell.Stream
import Intercept.Shell.Switches

/-!
# The course of a process

What a process has of its own, apart from what it shares with all others: where it is, what its
channels lead to, and what a shell knows of names and jobs.
-/

namespace Intercept.Shell

/-- A variable, which may be known and have no value. -/
structure Variable where
  value : Option Bytes
  exported : Bool := false
  readOnly : Bool := false
  deriving DecidableEq, Repr

/-- What is left out of the commands that follow, until it has been left. -/
inductive Skip where
  | nothing
  /-- So many loops are left, and the outermost of them goes on if `resumes`. -/
  | loops (count : Nat) (resumes : Bool)
  /-- A function, or a file of commands; `given` if a status was given. -/
  | function (given : Bool)
  deriving DecidableEq, Repr

/-- How far the reading of options from arguments has come: the argument, and the letter in it. -/
structure OptionPlace where
  word : Nat := 1
  letter : Option Nat := none
  deriving DecidableEq, Repr

/-- A row of processes in the background. -/
structure Job where
  /-- The number by which it is listed. -/
  place : Nat
  /-- The number of its last process, and how many there are. -/
  number : Nat
  stages : Nat := 1
  /-- Whether its end has been told of. -/
  told : Bool := false
  /-- Whether it has been waited for, so that its place can be given to another. -/
  waited : Bool := false
  deriving DecidableEq, Repr

/-- What was before it became local. -/
inductive Saved where
  | binding (name : Bytes) (was : Option Variable)
  | switches (were : Switches)

structure Course where
  /-- The number of the process, those of the processes that wait for it, and that of the process
  whose copy it is, or its own. -/
  number : Nat
  ancestors : List Nat := []
  shellNumber : Nat
  directory : Files.Place
  /-- The path by which the directory was reached. -/
  directoryPath : Bytes := []
  /-- The name in messages, and the command of the shell that messages are from. -/
  name : Bytes
  command : Option Bytes := none
  /-- The language of its commands. -/
  language : Language := .standard
  /-- What messages about a text call it that is no program, unless it is a file. -/
  textName : Option Bytes := none
  /-- The line that messages are about. -/
  line : Nat := 0
  /-- The lines that the texts which are being read have come to, innermost text first. -/
  readingLines : List Nat := [1]
  arguments : List Bytes := []
  options : OptionPlace := {}
  bindings : List (Bytes × Variable) := []
  /-- What was before it became local, innermost function first. -/
  scopes : List (List Saved) := []
  functions : List (Bytes × Command) := []
  aliases : List (Bytes × Bytes) := []
  /-- The paths at which commands were found, and whether they are to be looked for again. -/
  known : List (Bytes × Bytes × Bool) := []
  documents : List (Nat × Word) := []
  nextDocument : Nat := 0
  /-- The commands for signals, and for the end of the shell under the number zero. -/
  traps : List (Nat × Bytes) := []
  channels : List (Nat × Channel) := []
  switches : Switches := {}
  mask : Nat := 18
  /-- By how much the process stands back behind others. -/
  niceness : Int := 0
  status : Nat := 0
  /-- The status with which the shell ends, or goes on after the commands for a signal. -/
  savedStatus : Option Nat := none
  /-- The status of the last substitution in a command without a name. -/
  bodyStatus : Nat := 0
  skip : Skip := .nothing
  loops : Nat := 0
  /-- How many functions are being carried out inside one another. -/
  depth : Nat := 0
  /-- How many files of commands are being carried out inside one another. -/
  sources : Nat := 0
  /-- The jobs that can be waited for or listed, latest first. -/
  jobs : List Job := []
  latestJob : Option Nat := none
  /-- Whether a trace is being written. -/
  isTracing : Bool := false

end Intercept.Shell
