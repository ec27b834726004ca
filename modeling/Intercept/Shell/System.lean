import Intercept.Shell.Course
import Intercept.WaitStatus

/-!
# The system of all processes

What the processes of the host system share: the file tree, the streams between them, the signals on
their way, and the jobs that let time pass. Processes are carried out one after the other. A job
that begins with a pause sleeps until its time has come; one that has done something before it
pauses goes on at once, and what it writes bears the time at which it would have been written.
-/

namespace Intercept.Shell

/-- What a process does about a signal that would end it. -/
structure Guard where
  process : Nat
  signal : Nat
  /-- Whether the process carries out commands when the signal comes. -/
  answers : Bool
  deriving DecidableEq, Repr

/-- A redirection whose words have been expanded. -/
inductive Connection where
  | file (channel : Nat) (opening : Opening) (path : Bytes)
  /-- To what another channel leads to, or to nothing. -/
  | duplicate (channel : Nat) (source : Option Nat)
  | document (channel : Nat) (number : Nat)
  /-- To a text. -/
  | text (channel : Nat) (bytes : Bytes)
  deriving DecidableEq, Repr

/-- Commands in a row, each in a process of its own. -/
structure Task where
  stages : List Command
  connections : List Connection := []
  /-- Whether a failure is looked at. -/
  tested : Bool := false

/-- A job that pauses before it has done anything. -/
structure Sleeper where
  wakes : Files.Moment
  /-- How many of its pauses will be over then. -/
  passed : Nat
  /-- The process that has started it, as it was then. -/
  course : Course
  /-- The numbers of its processes. -/
  numbers : List Nat
  task : Task
  /-- Signals that have come to its processes. -/
  arrived : List (Nat × Nat) := []

/-- How the attempt to carry out a job stands. -/
structure Trial where
  /-- How many of its pauses are over. -/
  passed : Nat := 0
  /-- Whether nothing has been done that others could see, so that the job can be put off. -/
  isFresh : Bool := true
  /-- The streams and files up to these numbers belong to others too. -/
  streams : Nat
  files : Nat
  /-- How often it has paused since it could no longer be put off. -/
  pauses : Nat := 0
  /-- Signals that come to its processes as soon as it wakes. -/
  arriving : List (Nat × Nat) := []

/-- How a job ends, and when. -/
structure Ending where
  number : Nat
  time : Files.Moment
  status : WaitStatus

/-- A time at which a signal comes to all that a process has started. -/
structure Deadline where
  process : Nat
  moment : Files.Moment
  signal : Nat
  /-- Whether the signal has been sent. -/
  passed : Bool := false
  deriving DecidableEq, Repr

structure System where
  tree : Files.Tree
  streams : Array Stream := #[]
  files : Array OpenFile := #[]
  /-- The greatest number that a process has had. -/
  processes : Nat := 0
  guards : List Guard := []
  /-- Signals that have come to processes which carry out commands for them. -/
  arrived : List (Nat × Nat) := []
  /-- Processes that a signal ends while they wait for another, each with the signal. -/
  doomed : List (Nat × Nat) := []
  deadlines : List Deadline := []
  sleepers : List Sleeper := []
  endings : List Ending := []
  /-- The number of the job that is being carried out, and how that stands. -/
  job : Option Nat := none
  trial : Option Trial := none

namespace System

/-- The time of all processes. -/
def now (s : System) : Files.Moment := s.tree.now

/-- The system at another time. -/
def atTime (s : System) (now : Files.Moment) : System := { s with tree := { s.tree with now } }

/-- The system in which something has been done that others can see. -/
def touched (s : System) : System :=
  { s with trial := s.trial.map fun trial => { trial with isFresh := false } }

/-- The system in which something has been done to a stream. -/
def touchedStream (s : System) (index : Nat) : System :=
  if s.trial.any (index < ·.streams) then s.touched else s

/-- The system in which something has been done to an open file. -/
def touchedFile (s : System) (index : Nat) : System :=
  if s.trial.any (index < ·.files) then s.touched else s

/-- How a job has ended, if it has. -/
def ending? (s : System) (number : Nat) : Option WaitStatus :=
  (s.endings.find? fun ending => ending.number = number && ending.time ≤ s.now).map (·.status)

/-- The first deadline of some processes that has not passed, if it comes before a moment. -/
def deadline? (s : System) (processes : List Nat) (moment : Files.Moment) : Option Deadline :=
  let own := s.deadlines.filter fun one =>
    !one.passed && processes.contains one.process && one.moment < moment
  own.foldl (fun first other =>
    match first with
    | none => some other
    | some first => some (if other.moment < first.moment then other else first)) none

/-- The system in which the deadline of a process has passed. -/
def withPassed (s : System) (process : Nat) : System :=
  { s with deadlines := s.deadlines.map fun one =>
      if one.process = process then { one with passed := true } else one }

/-- The sleeper that wakes first. -/
def firstSleeper? (s : System) : Option Sleeper :=
  s.sleepers.foldl (fun first other =>
    match first with
    | none => some other
    | some first => some (if other.wakes < first.wakes then other else first)) none

def withoutSleeper (s : System) (sleeper : Sleeper) : System :=
  { s with sleepers := s.sleepers.filter (·.numbers ≠ sleeper.numbers) }

/-- The system in which a signal has come to a process. One that sleeps finds it when it wakes. -/
def delivered (s : System) (process signal : Nat) : System :=
  if s.sleepers.any (·.numbers.contains process) then
    { s with sleepers := s.sleepers.map fun sleeper =>
        if sleeper.numbers.contains process then
          { sleeper with arrived := sleeper.arrived ++ [(process, signal)] }
        else sleeper }
  else { s with arrived := s.arrived ++ [(process, signal)] }

/-- The system in which a job ends now. -/
def ended (s : System) (number : Nat) (status : WaitStatus) : System :=
  let others := s.endings.filter (·.number ≠ number)
  { s with endings := { number, time := s.now, status } :: others }

/-- The system in which a signal ends a job now, so that nothing more comes from it. -/
def killed (s : System) (number signal : Nat) : System :=
  let rest := { s with
    sleepers := s.sleepers.filter (!·.numbers.contains number)
    streams := s.streams.map fun (stream : Stream) => stream.withoutLater number s.now }
  (rest.ended number (.signalled signal)).touched

end System

end Intercept.Shell
