import Intercept.Shell.Builtin.Options
import Intercept.Shell.Signal

/-!
# Jobs

Processes in the background are jobs, which can be listed and waited for. A job is named by the
number of its last process, or by its place in the listing.
-/

namespace Intercept.Shell.Builtin

/-- Tells of a process that a signal has ended, unless it is one that ends programs in the ordinary
course. A shell of the extended language says nothing. -/
def tellEnd (status : WaitStatus) : Action Unit := do
  match status with
  | .signalled signal =>
    if (← get).language.isExtended then return
    if signal ≠ 2 && signal ≠ 13 then Action.tell (Bytes.ofString (signalDescription signal))
  | _ => return ()

/-- The job that a word names behind a percent sign. -/
def findJob (word : Bytes) : Action Job := do
  let jobs := (← get).jobs
  let orFail (job : Option Job) (message : Bytes) : Action Job :=
    match job with
    | some job => return job
    | none => Action.failWith message
  let noJob := Action.about word "no such job"
  if (← get).language.isExtended && jobs.isEmpty then Action.failWith noJob
  match word.drop 1 with
  | [] => orFail jobs.head? (Bytes.ofString "No current job")
  | [0x25] => orFail jobs.head? (Bytes.ofString "No current job")
  | [0x2B] => orFail jobs.head? (Bytes.ofString "No current job")
  | [0x2D] => orFail (jobs.drop 1).head? (Bytes.ofString "No previous job")
  | place =>
    orFail ((number? place).bind fun n => jobs.find? (·.place = n))
      (if (← get).language.isExtended then noJob else Action.of "No such job" word)

/-- What a job has come to. -/
def stateText : Option WaitStatus → String
  | none => "Running"
  | some (.signalled signal) => signalDescription signal
  | some status => if status.exitCode = 0 then "Done" else s!"Done({status.exitCode})"

/-- The line that shows a job and what it has come to, with its number where that is asked for. -/
def jobLine (job : Job) (outcome : Option WaitStatus) (isCurrent isPrevious showsNumber : Bool) :
    Bytes :=
  let sign := if isCurrent then "+" else if isPrevious then "-" else " "
  let number := if showsNumber then s!"{job.number} " else ""
  let state := s!"[{job.place}] {sign} {number}{stateText outcome}"
  let blanks := String.ofList (List.replicate (max 1 (33 - state.length)) ' ')
  let others := String.join (List.replicate (job.stages - 1) " | ")
  Bytes.ofString (state ++ blanks ++ others ++ "\n")

/-- Lists jobs, and forgets those that have ended. -/
def listJobs (words : List Bytes) : Action Answer := do
  let read ← readOptions "lp" words
  let asked (place : Nat) (words : List Job) : Bool :=
    read.operands.isEmpty || words.any (·.place = place)
  let named ← read.operands.mapM fun word => do
    if word.head? = some 0x25 then return ← findJob word
    match (← get).jobs.find? fun job => number? word = some job.number with
    | some job => return job
    | none => Action.failWith (Action.of "No such job" word)
  let p ← get
  let jobs := p.jobs
  let isKept (job : Job) : Bool := p.isRunning job || read.has 'p' || !asked job.place named
  let shown := jobs.zipIdx.filter fun (job, _) => asked job.place named
  let line : Job × Nat → Bytes
    | (job, index) =>
      let before := ((jobs.take index).filter isKept).length
      if read.has 'p' then digitsOf job.number ++ [Bytes.newline]
      else jobLine job (p.outcome? job) (before = 0) (before = 1) (read.has 'l')
  modify fun p => { p with jobs := p.jobs.filter isKept }
  return { output := shown.flatMap line }

/-- The job that a word of `wait` names, if there is one. -/
def jobOfWord (word : Bytes) : Action (Option Job) := do
  if word.head? = some 0x25 then return some (← findJob word)
  let number ← Action.count word
  return (← get).jobs.find? (·.number = number)

/-- The jobs that have to end before `wait` can tell of them. -/
def awaited (p : Process) (words : List Bytes) : List Job :=
  let operands := words.filter (·.head? ≠ some 0x2D)
  let placeOf (word : Bytes) : Option Nat := number? (word.drop 1)
  if operands.isEmpty then p.jobs
  else
    p.jobs.filter fun job => operands.any fun word =>
      if word.head? = some 0x25 then placeOf word = some job.place || (placeOf word).isNone
      else number? word = some job.number

/-- Tells of jobs that have ended, or of all of them. -/
def wait (words : List Bytes) : Action Answer := do
  let p ← get
  let read ← readOptions "" words
  if read.operands.isEmpty then
    modify fun p => { p with jobs := p.jobs.map fun job => { job with waited := true } }
    return {}
  let mut status := 127
  for word in read.operands do
    let found? ← (jobOfWord word).attempt
    if found?.isNone && !p.language.isExtended then throw .failed
    if p.language.isExtended then status := 127
    if p.language.isExtended && found? = some none then
      Action.complain (Bytes.ofString "pid " ++ word ++
        Bytes.ofString " is not a child of this shell")
    if let some (some job) := found? then
      let outcome := ((← get).outcome? job).getD .unknown
      if !job.told && !job.waited then tellEnd outcome
      let told (other : Job) : Job :=
        if other.place = job.place then { other with waited := true, told := true } else other
      modify fun p => { p with jobs := p.jobs.map told }
      status := outcome.exitCode
  return { status }

/-- A command about jobs that can be stopped and go on, of which there are none. -/
def resume (words : List Bytes) : Action Answer := do
  if (← get).language.isExtended then Action.fail "no job control"
  let read ← readOptions "" words
  let refuse (name : Bytes) : Action Answer :=
    Action.failWith (Bytes.ofString "job " ++ name ++
      Bytes.ofString " not created under job control")
  match read.operands with
  | [] =>
    if (← get).jobs.isEmpty then Action.fail "No current job"
    refuse (Bytes.ofString "(null)")
  | word :: _ =>
    if word.head? ≠ some 0x25 then Action.failWith (Action.of "No such job" word)
    let _ ← findJob word
    refuse word

end Intercept.Shell.Builtin
