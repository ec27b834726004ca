import Intercept.Shell.Call
import Intercept.Shell.Checks
import Intercept.Shell.Children
import Intercept.Shell.Lines
import Intercept.Shell.Loops
import Intercept.Shell.Startup
import Intercept.Shell.Tool.Environment
import Intercept.Shell.Tool.Table

/-!
# Carrying out commands

Commands are carried out in a process, and may start programs, of which the shell is one. A command
may run for ever, so each of these functions is given the number of steps that may be nested; a
command that needs more stops with `Stop.exhausted`.
-/

namespace Intercept.Shell

def Command.isNothing : Command → Bool
  | nothing => true
  | _ => false

/-- Whether a shell that is told to do so ends where the command fails. -/
def Command.endsOnFailure : Command → Bool
  | simple .. => true
  | pipeline .. => true
  | subshell .. => true
  | background .. => true
  | _ => false

/-- The signals that have come to the process and are to be answered, lowest first. -/
def Process.arrivedSignals (p : Process) : List Nat :=
  (p.system.arrived.filterMap fun (process, signal) =>
    if process = p.number then some signal else none).mergeSort

/-- The process with a signal answered. -/
def Process.withoutSignal (p : Process) (signal : Nat) : Process :=
  let arrived := p.system.arrived.filter (· ≠ (p.number, signal))
  { p with system := { p.system with arrived } }

/-- The path of the file that is named where commands are to be carried out from it. -/
def commandFile (name : Bytes) : Action Bytes := do
  let p ← get
  if name.contains Bytes.slash then return name
  match p.findFile p.searchedPath name with
  | .ok path => return path
  | .error _ => if p.language.isExtended then return name else Action.failAbout name "not found"

/-- The number of rounds after which a loop is taken to go on for ever. -/
def roundLimit : Nat := 10000000

/-- The number of functions that can be carried out inside one another. -/
def depthLimit : Nat := 1000

/-- The process that has left a function, or a file of commands. -/
def Process.behindFunction (p : Process) : Process :=
  match p.skip with
  | .function _ => { p with skip := .nothing }
  | _ => p

/-- The variable of the extended language that holds the name of a function. -/
def functionName : Bytes := Bytes.ofString "FUNCNAME"

/-- The process that carries out a function, or none. -/
def Process.inFunction (p : Process) (name : Option Bytes) : Process :=
  match p.language, name with
  | .standard, _ => p
  | .extended, some name => p.putVariable functionName { value := some name }
  | .extended, none => p.dropVariable functionName

/-- The variables that a program is given. A shell of the extended language adds its path. -/
def Process.environmentFor (p : Process) (program : Program) : List (Bytes × Bytes) :=
  match p.language with
  | .standard => p.environment
  | .extended =>
    let own : Bytes := [0x5F]
    let path := if program.name.contains Bytes.slash then program.name
      else ((p.findFile p.searchedPath program.name).toOption).getD program.name
    p.environment.filter (·.1 ≠ own) ++ [(own, path)]

/-- The process that carries out commands in a word. In the extended language it does not end where
one of them fails. -/
def Process.inSubstitution (p : Process) : Process :=
  if p.language.isExtended then { p with switches := p.switches.turn false "errexit" } else p

mutual

/-- Carries out a command, and answers the signals that come in the meantime. -/
def run : Nat → Circumstances → Command → Action Nat
  | 0, _, _ => throw .exhausted
  | fuel + 1, c, command => do
    let isIdle := command.isNothing || (← get).switches.readOnly
    let mut status := 0
    if !isIdle then
      answerSignals fuel
      status ← runForm fuel c command
      Action.setStatus status
    let mayEnd := !isIdle && command.endsOnFailure && !c.tested
    if mayEnd && (← get).switches.exitOnFailure && status ≠ 0 then throw (.ended false)
    answerSignals fuel
    if c.last then throw (.ended false)
    return (← get).status

/-- Carries out the commands that are set for signals which have come. The status is the same
afterwards, unless they give one. -/
def answerSignals : Nat → Action Unit
  | 0 => throw .exhausted
  | fuel + 1 => do
    let p ← get
    match p.skip, p.arrivedSignals with
    | .nothing, signal :: _ =>
      let status := p.savedStatus.getD p.status
      set { p.withoutSignal signal with savedStatus := some status }
      if let some commands := p.trap? signal then
        let _ ← runText (run fuel) {} commands
        if (← get).skip ≠ .function true then Action.setStatus status
      modify fun after => { after with savedStatus := p.savedStatus }
      answerSignals fuel
    | _, _ => return ()

/-- Carries out a command by its form. -/
def runForm : Nat → Circumstances → Command → Action Nat
  | 0, _, _ => throw .exhausted
  | fuel + 1, c, command => do
    let output := substitute fuel
    let within : Circumstances := { tested := c.tested }
    match command with
    | .nothing => return 0
    | .simple line assignments words redirects =>
      Action.setLine line
      modify fun p => { p with bodyStatus := 0 }
      let call ← expandCall output {} words
      let action := runCall fuel c call assignments redirects
      if call.isLocal then withScope action else action
    | .pipeline stages behind =>
      stages.forM foresee
      let task : Task := { stages, tested := c.tested }
      if behind then inBackground task (runTask fuel task)
      else inForeground (settle fuel) (runTask fuel task)
    | .negation command =>
      let status ← run fuel { tested := true } command
      if (← get).skip ≠ .nothing then return status
      return if status = 0 then 1 else 0
    | .sequence first second =>
      let status ← run fuel within first
      if (← get).skip ≠ .nothing then return status
      run fuel c second
    | .both first second =>
      let status ← run fuel { tested := true } first
      if status ≠ 0 || (← get).skip ≠ .nothing then return status
      run fuel c second
    | .either first second =>
      let status ← run fuel { tested := true } first
      if status = 0 || (← get).skip ≠ .nothing then return status
      run fuel c second
    | .background line command redirects =>
      if !redirects.isEmpty then Action.setLine line
      let connections ← Connection.ofRedirects output redirects
      let task : Task := { stages := [command], connections }
      inBackground task (runTask fuel task)
    | .subshell line body redirects =>
      Action.setLine line
      let connections ← Connection.ofRedirects output redirects
      let action : Action Nat := do
        Connection.makeAll output connections
        run fuel { within with last := true } body
      if c.last && !(← get).hasTraps then action
      else inForeground (settle fuel) [asShell fuel action]
    | .redirected line command redirects =>
      Action.setLine line
      let connections ← Connection.ofRedirects output redirects
      Action.withChannels do
        if (← (Connection.makeAll output connections).attempt).isNone then
          return (← get).language.failure
        run fuel within command
    | .choice condition body otherwise =>
      let status ← run fuel { tested := true } condition
      if (← get).skip ≠ .nothing then return status
      if status = 0 then run fuel c body
      else
        match otherwise with
        | .nothing => return 0
        | otherwise => run fuel c otherwise
    | .loop untilTrue condition body =>
      inLoop (repeatBody untilTrue (run fuel { tested := true } condition) (run fuel within body)
        roundLimit 0)
    | .forEach line name words body =>
      Action.setLine line
      let values ← match words with
        | some words => expandWords output words
        | none => pure (← get).arguments
      inLoop (repeatFor name (run fuel within body) values 0)
    | .select line subject cases =>
      Action.setLine line
      runCases fuel c (← expandText output {} subject) cases
    | .check line condition =>
      Action.setLine line
      return if ← holdsCheck output condition then 0 else 1
    | .sum line text =>
      Action.setLine line
      return if ← holdsSum output false text then 0 else 1
    | .counted line first condition behind body =>
      Action.setLine line
      let _ ← holdsSum output true first
      let isOver : Action Nat := return if ← holdsSum output true condition then 0 else 1
      let goOn : Action Unit := do let _ ← holdsSum output true behind
      inLoop (repeatBody false isOver (run fuel within body) roundLimit 0 goOn)
    | .define name body =>
      modify fun p => { p with functions := (name, body) :: p.functions.filter (·.1 ≠ name) }
      return 0

/-- Carries out the first case with a pattern that matches. -/
def runCases : Nat → Circumstances → Bytes → List (List Word × Command) → Action Nat
  | 0, _, _, _ => throw .exhausted
  | _ + 1, _, _, [] => return 0
  | fuel + 1, c, subject, (patterns, body) :: cases => do
    let isMatch word := return (← expandPattern (substitute fuel) word).matches subject
    if ← patterns.anyM isMatch then
      match body with
      | .nothing => return 0
      | body => run fuel c body
    else runCases fuel c subject cases

/-- Carries out a simple command whose words have been expanded. -/
def runCall : Nat → Circumstances → Call → List (Bytes × Word) → List Redirect → Action Nat
  | 0, _, _, _, _ => throw .exhausted
  | fuel + 1, c, call, assignments, redirects => do
    let output := substitute fuel
    let before ← get
    let connections ← Connection.ofRedirects output redirects
    let action : Action Nat := do
      if (← (Connection.makeAll output connections).attempt).isNone then
        let language := (← get).language
        if call.isSpecial = some true && !language.isExtended then throw .failed
        return language.failure
      let shown ← assignments.mapM fun (name, word) => do
        assignOrGoOn call name (← expandText output .value word)
      trace output (before.channels.lookup 2) (shown ++ call.opening ++ call.fields)
      match call.builtin, call.fields with
      | some builtin, fields => runBuiltin fuel c builtin (call.isSpecial = some true) fields
      | none, [] => return (← get).bodyStatus
      | none, name :: arguments =>
        let p ← get
        match if call.passesFunctions then none else p.functions.lookup name with
        | some body => runFunction fuel c name body arguments
        | none => runFile fuel c call.usesStandard (name :: arguments)
    if call.isReplacement then action
    else action.andThen fun after => { after with channels := before.channels }

/-- Carries out a function. -/
def runFunction : Nat → Circumstances → Bytes → Command → List Bytes → Action Nat
  | 0, _, _, _, _ => throw .exhausted
  | fuel + 1, c, name, body, arguments => do
    let before ← get
    if depthLimit ≤ before.depth && !before.language.isExtended then
      Action.fail s!"Maximum function recursion depth ({depthLimit}) reached"
    let own := { before with arguments, options := {}, loops := 0, depth := before.depth + 1 }
    set (own.inFunction (some name))
    let _ ← (run fuel { tested := c.tested } body).andThen fun after =>
      { (after.behindFunction.inFunction (before.setting? functionName)) with
        arguments := before.arguments
        options := before.options
        loops := before.loops
        depth := before.depth }
    return (← get).status

/-- Carries out a command of the shell. A failure stops a shell of the standard language in a
special one. -/
def runBuiltin : Nat → Circumstances → Builtin → Bool → List Bytes → Action Nat
  | 0, _, _, _, _ => throw .exhausted
  | fuel + 1, c, builtin, isSpecial, fields => do
    let before ← get
    let words := fields.drop 1
    let action : Action Nat := do
      modify fun p => { p with command := fields.head? }
      match builtin.work with
      | .plain work => Action.finish (← work words)
      | .command => Action.finish (← Builtin.describe (Builtin.isSpecial? before.language) words)
      | .text =>
        if words.isEmpty then return 0
        runText (run fuel) { tested := c.tested } (Bytes.joinWith Bytes.space words)
      | .file =>
        match (← readOptions "" words).operands with
        | [] =>
          if before.language.isExtended then
            Action.failUse [] (Bytes.ofString "filename argument required")
          return 0
        | name :: _ =>
          let path ← commandFile name
          if before.language.isExtended then modify fun p => { p with command := none }
          let text ← contentsAt path
          modify fun p => { p with command := some path, sources := p.sources + 1 }
          let status ← (runText (run fuel) {} text true).andThen fun after =>
            { after with sources := before.sources }
          modify Process.behindFunction
          return status
      | .become =>
        if words.isEmpty then return 0
        replace fuel (← get).searchedPath words
      | .wait =>
        waitForJobs fuel words
        match (← get).arrivedSignals with
        | signal :: _ => return 128 + signal
        | [] => Action.finish (← Builtin.wait words)
    match ← (action.andThen fun after => { after with command := before.command }).attempt with
    | some status => return status
    | none =>
      let p ← get
      if isSpecial && !p.language.isExtended then throw .failed
      return p.status

/-- Carries out a program from a file: in the place of the shell if that has nothing more to do. -/
def runFile : Nat → Circumstances → Bool → List Bytes → Action Nat
  | 0, _, _, _ => throw .exhausted
  | fuel + 1, c, usesStandard, fields => do
    if !(← findCommand usesStandard (fields.headD [])) then return 127
    let p ← get
    let searched := if usesStandard then standardPath else p.searchedPath
    if c.last && !p.hasTraps then replace fuel searched fields
    else
      let start : Action WaitStatus := do
        match ← programFor searched fields with
        | some program => enter fuel program
        | none => return .ofCode (← get).status
      let _ ← newPlace
      let status ← inProcess (← get).copy start
      Builtin.tellEnd status
      return status.exitCode

/-- Makes the shell become a program, or end where there is none. -/
def replace : Nat → Bytes → List Bytes → Action Nat
  | 0, _, _ => throw .exhausted
  | fuel + 1, searched, fields => do
    match ← programFor searched fields with
    | some program => throw (.replaced (← enter fuel program))
    | none => throw (.ended false)

/-- Carries out a program for a tool in a process of its own, in the environment of the tool. -/
def launch : Nat → List Bytes → Action (Except Errno WaitStatus)
  | 0, _ => throw .exhausted
  | fuel + 1, fields => do
    match Tool.programOf (← get) fields with
    | .error errno => return .error errno
    | .ok program =>
      let child := (← get).copy
      return .ok (← inProcess child (succeed fuel program))

/-- Makes a tool become a program, in its environment, and carries that out. -/
def succeed : Nat → Program → Action WaitStatus
  | 0, _ => throw .exhausted
  | fuel + 1, program => do
    modify fun p => p.become program (Tool.environment p)
    runProgram fuel program

/-- Makes the process become a program, and carries that out. -/
def enter : Nat → Program → Action WaitStatus
  | 0, _ => throw .exhausted
  | fuel + 1, program => do
    modify fun p => p.become program (p.environmentFor program)
    runProgram fuel program

/-- Carries out the program that the process is. -/
def runProgram : Nat → Program → Action WaitStatus
  | 0, _ => throw .exhausted
  | fuel + 1, program => do
    let ofNothing : WaitStatus := .ofCode 127
    match program.tool with
    | "sh" | "dash" => asShell fuel (runShell fuel)
    | "bash" | "rbash" =>
      modify fun p => { p with language := .extended }
      asShell fuel (runShell fuel)
    | "env" =>
      match ← Tool.changeEnvironment program.arguments with
      | .error status => return .ofCode status
      | .ok next => succeed fuel next
    | "sleep" =>
      match ← Tool.duration? program.arguments with
      | .error status => return .ofCode status
      | .ok duration =>
        pause fuel duration
        return .ofCode 0
    | tool =>
      match Tool.find? tool, Tool.starter? tool with
      | some work, _ => return .ofCode (← work program.arguments)
      | none, some work =>
        let replace (fields : List Bytes) : Action (Except Errno WaitStatus) := do
          match Tool.programOf (← get) fields with
          | .error errno => return .error errno
          | .ok program => return .ok (← succeed fuel program)
        work { start := launch fuel, replace } program.arguments
      | none, none => return ofNothing

/-- What the shell does as a program. -/
def runShell : Nat → Action Nat
  | 0 => throw .exhausted
  | fuel + 1 => do
    let start ← startUp
    if let some text := start.text then
      modify fun p => { p with textName := some (Bytes.ofString "-c") }
      let _ ← runText (run fuel) {} text
    if let some script := start.script then
      let source := Source.ofText (← get).language true script
      let _ ← runLines (run fuel) {} Reader.stepLimit source 0
    return 0

/-- Carries out a computation as a shell does up to its end, where it carries out the commands that
are set for that. -/
def asShell : Nat → Action Nat → Action WaitStatus
  | 0, _ => throw .exhausted
  | fuel + 1, action => do
    let (result, after) := action.runFrom (← get)
    set after
    match result with
    | .error (.replaced status) => return status
    | .error (.killed signal) => throw (.killed signal)
    | .error (.paused duration) => throw (.paused duration)
    | .error .exhausted => throw .exhausted
    | _ =>
      let isAsked := match result with
        | .error (.ended asked) => asked
        | _ => false
      let status := if isAsked then after.savedStatus.getD after.status else after.status
      match after.trap? 0 with
      | none => return .ofCode status
      | some commands =>
        let others := after.setTraps (after.traps.filter (·.1 ≠ 0))
        set { others with status, savedStatus := some status, skip := .nothing, loops := 0 }
        let (result, after) := (runText (run fuel) {} commands).runFrom (← get)
        set after
        match result with
        | .error (.replaced status) => return status
        | .error (.killed signal) => throw (.killed signal)
        | .error (.paused duration) => throw (.paused duration)
        | .error .exhausted => throw .exhausted
        | .ok _ => return .ofCode (after.savedStatus.getD status)
        | .error (.ended true) => return .ofCode (after.savedStatus.getD status)
        | .error _ => return .ofCode after.status

/-- The output of commands in a word. -/
def substitute : Nat → Command → Action Bytes
  | 0, _ => throw .exhausted
  | fuel + 1, body => do
    match body with
    | .nothing => return []
    | body =>
      let action : Action Nat := do
        modify Process.inSubstitution
        run fuel { last := true } body
      outputOf (settle fuel) (asShell fuel action)

/-- The processes of a task. -/
def runTask : Nat → Task → List (Action WaitStatus)
  | 0, _ => [throw .exhausted]
  | fuel + 1, task => task.stages.map fun stage => asShell fuel do
      Connection.makeAll (substitute fuel) task.connections
      run fuel { tested := task.tested, last := true } stage

/-- Wakes sleepers, first the one whose time comes first, as long as one is to be waited for. -/
def wakeWhile : Nat → (Process → Sleeper → Bool) → Action Unit
  | 0, _ => throw .exhausted
  | fuel + 1, isAwaited => do
    let p ← get
    match p.system.firstSleeper? with
    | none => return ()
    | some sleeper =>
      if isAwaited p sleeper then
        let system := (p.system.withoutSleeper sleeper).atTime (max p.system.now sleeper.wakes)
        set { p with system }
        carryOut sleeper (runTask fuel sleeper.task)
        wakeWhile fuel isAwaited

/-- Lets the time come to a moment. -/
def passUntil : Nat → Files.Moment → Action Unit
  | 0, _ => throw .exhausted
  | fuel + 1, moment => do
    wakeWhile fuel fun _ sleeper => sleeper.wakes ≤ moment
    modify fun p => { p with system := p.system.atTime (max p.system.now moment) }

/-- Lets time pass. -/
def pause : Nat → Files.Moment → Action Unit
  | 0, _ => throw .exhausted
  | fuel + 1, duration => do
    let p ← get
    let goal := p.system.now + duration
    match p.system.deadline? p.ancestors goal with
    | none => if ← pauseJob duration then passUntil fuel goal
    | some deadline =>
      if ← pauseJob (deadline.moment - p.system.now) then passUntil fuel deadline.moment
      expire deadline
      pause fuel (goal - deadline.moment)

/-- Waits for the jobs that may write to a stream. -/
def settle : Nat → Nat → Action Unit
  | 0, _ => throw .exhausted
  | fuel + 1, index =>
    wakeWhile fuel fun p _ => p.system.sleepers.any fun sleeper =>
      sleeper.course.channels.any fun (_, channel) => channel = .writing index

/-- Waits for the jobs that words name to end, or for a signal that is to be answered. -/
def waitForJobs : Nat → List Bytes → Action Unit
  | 0, _ => throw .exhausted
  | fuel + 1, words => do
    let isOf (p : Process) (number : Nat) : Bool :=
      (Builtin.awaited p words).any (·.number = number)
    wakeWhile fuel fun p _ =>
      p.arrivedSignals.isEmpty &&
        p.system.sleepers.any fun sleeper => sleeper.numbers.any (isOf p)
    let p ← get
    let times := (p.system.endings.filter fun ending => isOf p ending.number).map (·.time)
    if p.arrivedSignals.isEmpty then passUntil fuel (times.foldl max p.system.now)

end

end Intercept.Shell
