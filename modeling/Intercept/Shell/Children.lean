import Intercept.Shell.Builtin.Processes

/-!
# Other processes

A process carries out commands in other processes: alone, in a row where each reads what the one
before it has written, or in the background. They are carried out one after the other.
-/

namespace Intercept.Shell

/-- The signal for a process whose bytes nobody reads. -/
def pipeSignal : Nat := 13

/-- Ends the process if a signal has come for which it does so. -/
def endIfDoomed : Action Unit := do
  let p ← get
  if let some signal := p.system.doomed.lookup p.number then throw (.killed signal)

/-- Carries out a computation in another process, and tells how that has ended. A signal from there
may have ended this process. A process that goes on without an end is ended where it `isRead`: then
what it writes is no longer read at some time. -/
def inProcess (child : Process) (action : Action WaitStatus) (isRead : Bool := false) :
    Action WaitStatus := do
  let (result, after) := action.runFrom child
  modify fun p => { p with system := after.system }
  endIfDoomed
  match result with
  | .ok status => return status
  | .error (.killed signal) => return .signalled signal
  | .error (.paused duration) => throw (.paused duration)
  | .error .exhausted => if isRead then return .signalled pipeSignal else throw .exhausted
  | .error _ => return .ofCode after.status

/-- Carries out computations in copies of the process with some numbers, of which the first reads
from a channel, and the others read what is written by the one before; jobs that write there too are
to `settle`. Tells how the processes have ended. -/
def inRow (settle : Nat → Action Unit) (source : Option Channel) :
    List (Nat × Action WaitStatus) → Action (List WaitStatus)
  | [] => return []
  | (number, stage) :: stages => do
    let child := (← get).copyAs number
    let reading := match source with
      | some _ => child.setChannel 0 source
      | none => child
    if stages.isEmpty then return [← inProcess reading stage]
    let (index, opened) := reading.openStream []
    let status ← inProcess (opened.setChannel 1 (some (.writing index))) stage true
    settle index
    return status :: (← inRow settle (some (.reading index)) stages)

/-- Gives numbers to computations that will be carried out in processes of their own. -/
def numbered (stages : List (Action WaitStatus)) : Action (List (Nat × Action WaitStatus)) := do
  let (numbers, p) := (← get).reserve stages.length
  set p
  return numbers.zip stages

/-- The place for a new job: the first that no job has which can still be waited for. -/
def newPlace : Action Nat := do
  let p ← get
  let isFree (place : Nat) : Bool := p.jobs.all fun job => job.place ≠ place || job.waited
  let places := (List.range (p.jobs.length + 1)).map (· + 1)
  let place := (places.find? isFree).getD places.length
  set { p with jobs := p.jobs.filter (·.place ≠ place) }
  return place

/-- The status of a pipeline: that of its last stage, or of the last one that has failed where those
are looked at too. -/
def statusOfRow (looksAtAll : Bool) (ends : List WaitStatus) : Nat :=
  let statuses := ends.map (·.exitCode)
  let looked := if looksAtAll then statuses.filter (· ≠ 0) else statuses
  looked.getLast?.getD 0

/-- Carries out the stages of a pipeline. -/
def inForeground (settle : Nat → Action Unit) (stages : List (Action WaitStatus)) :
    Action Nat := do
  let _ ← newPlace
  let ends ← inRow settle none (← numbered stages)
  ends.forM Builtin.tellEnd
  return statusOfRow ((← get).switches.isOn "pipefail") ends

/-- Carries out the stages of a job, of which the first can read nothing, as far as some pauses are
over, at a time. The job sleeps if it pauses before it has done anything, and else goes on to its
end. -/
def carryOut (sleeper : Sleeper) (stages : List (Action WaitStatus)) : Action Unit := do
  let p ← get
  let opened := { p with toCourse := sleeper.course }.openStream []
  let (index, child) := opened
  let trial : Trial :=
    { passed := sleeper.passed
      streams := child.system.streams.size
      files := child.system.files.size
      arriving := sleeper.arrived }
  let system := { child.system.atTime sleeper.wakes with
    trial := some trial, job := sleeper.numbers.getLast? }
  let row := inRow (fun _ => return) (some (.reading index)) (sleeper.numbers.zip stages)
  let (result, after) := row.runFrom { child with system }
  let outer := p.system.touched.trial
  let number := sleeper.numbers.getLast?.getD 0
  let settled (s : System) : System :=
    { s.atTime p.system.now with trial := outer, job := p.system.job }
  match result with
  | .error (.paused duration) =>
    let later := { sleeper with
      wakes := sleeper.wakes + duration, passed := sleeper.passed + 1, arrived := [] }
    let isOwn (g : Guard) : Bool := sleeper.numbers.contains g.process
    let guards := after.system.guards.filter isOwn ++ p.system.guards.filter (!isOwn ·)
    let sleepers := p.system.sleepers ++ [later]
    set { p with system := { p.system.touched with guards, sleepers } }
  | .ok ends =>
    let status := (ends.getLast?).getD .unknown
    set { p with system := settled (after.system.ended number status) }
  | .error _ => set { p with system := settled after.system }
  endIfDoomed

/-- Carries out the stages of a pipeline as a job that can be waited for. -/
def inBackground (task : Task) (stages : List (Action WaitStatus)) : Action Nat := do
  let place ← newPlace
  let (numbers, p) := (← get).reserve stages.length
  set p
  let number := numbers.getLast?.getD 0
  carryOut { wakes := p.system.now, passed := 0, course := p.toCourse, numbers, task } stages
  let job : Job := { place, number, stages := stages.length }
  modify fun p => { p with jobs := job :: p.jobs, latestJob := some number }
  return 0

/-- How often a job pauses before it is taken to do so for ever. -/
def pauseLimit : Nat := 1000

/-- Lets time pass in a job that is being tried; tells whether there is none. A job that has done
nothing so far is put off. -/
def pauseJob (duration : Files.Moment) : Action Bool := do
  let p ← get
  match p.system.trial with
  | none => return true
  | some trial =>
    if 0 < trial.passed then
      let arrived := if trial.passed = 1 then trial.arriving else []
      let passed : Trial := { trial with passed := trial.passed - 1 }
      set { p with system := { p.system with
        trial := some passed, arrived := p.system.arrived ++ arrived } }
    else if trial.isFresh then throw (.paused duration)
    else if pauseLimit ≤ trial.pauses then throw .exhausted
    else
      let system := p.system.atTime (p.system.now + duration)
      let trial := { trial with pauses := trial.pauses + 1 }
      set { p with system := { system with trial := some trial } }
    return false

/-- Sends the signal of a deadline to the process and to those that it was started by, up to the one
whose deadline it is. -/
def expire (deadline : Deadline) : Action Unit := do
  let p ← get
  set { p with system := p.system.withPassed deadline.process }
  let above := p.ancestors.takeWhile (· ≠ deadline.process)
  for target in above do
    let _ ← sendSignal deadline.signal target
  let _ ← sendSignal deadline.signal p.number

/-- The bytes without the newlines at the end. -/
def dropNewlines (bytes : Bytes) : Bytes :=
  (bytes.reverse.dropWhile (· = Bytes.newline)).reverse

/-- What is written by a computation in a copy of the process, as a word can hold it. Jobs that
write too are waited for. -/
def outputOf (settle : Nat → Action Unit) (action : Action WaitStatus) : Action Bytes := do
  let (index, opened) := (← get).openStream []
  set opened
  let _ ← newPlace
  let p ← get
  let counted := { p with system := { p.system with processes := p.system.processes + 1 } }
  let child := counted.copyAs counted.system.processes
  let status ← inProcess (child.setChannel 1 (some (.writing index))) action
  settle index
  Builtin.tellEnd status
  let p ← get
  set { p.changeStream index (fun _ => {}) with bodyStatus := status.exitCode }
  return dropNewlines ((p.stream index).filter (· ≠ 0))

end Intercept.Shell
