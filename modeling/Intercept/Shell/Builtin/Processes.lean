import Intercept.Shell.Builtin.Jobs
import Intercept.Shell.Signal
import Intercept.Shell.Variables

/-!
# Commands about signals

Signals that are sent, and what is done when they come.
-/

namespace Intercept.Shell

/-- Sends a signal to a process, and tells whether there is one of that number. A process that
carries out commands for the signal is left to find it; one that does nothing about it ends, or will
have ended when it is looked at again. -/
def sendSignal (signal target : Nat) : Action Bool := do
  let p ← get
  let isSleeping := p.system.sleepers.any (·.numbers.contains target)
  let isJob := p.jobs.any (·.number = target) || isSleeping
  if !(target = p.number || p.ancestors.contains target || isJob) then return false
  if signal = 0 then return true
  let guard := p.system.guards.find? fun g => g.process = target && g.signal = signal
  match guard with
  | some guard =>
    if guard.answers then set { p with system := (p.system.delivered target signal).touched }
    return true
  | none =>
    if harmlessSignals.contains signal then return true
    if isJob then
      if (p.system.ending? target).isNone then
        set { p with system := p.system.killed target signal }
      return true
    if target = p.number then throw (.killed signal)
    let doomed := p.system.doomed ++ [(target, signal)]
    set { p with system := { p.system.touched with doomed } }
    return true

namespace Builtin

/-- What `kill` can be asked for. -/
def killUsage : String :=
  "Usage: kill [-s sigspec | -signum | -sigspec] [pid | job]... or\nkill -l [exitstatus]"

/-- What `kill` can be asked for in the extended language. -/
def extendedKillUsage : String :=
  "kill: usage: kill [-s sigspec | -n signum | -sigspec] pid | jobspec ... or kill -l [sigspec]"

/-- The signals with their names, as a table. -/
def signalTable : String :=
  let shown := (List.range (lastSignal + 1)).filter fun n => n ≠ 0 && n ≠ 32 && n ≠ 33
  let cell (n : Nat) : String :=
    let number := toString n
    let name := if n = 16 then "STKFLT" else signalName n
    (if number.length = 1 then " " else "") ++ number ++ ") SIG" ++ name
  let ending (index : Nat) : String :=
    if index % 5 = 4 || index + 1 = shown.length then "\n" else "\t"
  String.join (shown.zipIdx.map fun (n, index) => cell n ++ ending index)

/-- What is asked of signals in the extended language: the name for a number or a status, the number
for a name, or all of them. -/
def listSignalsByName (words : List Bytes) : Action Answer := do
  if words.isEmpty then return { output := Bytes.ofString signalTable }
  let mut answer : Answer := {}
  for word in words do
    let text? : Option String := match number? word, signalIn? .extended word with
      | some n, _ =>
        let signal := if n > 128 then n - 128 else n
        if lastSignal < signal then none else some (signalName signal)
      | none, some signal => some (toString signal)
      | none, none => none
    match text? with
    | some text =>
      answer := { answer with output := answer.output ++ Bytes.ofString (text ++ "\n") }
    | none =>
      Action.complain (Action.about word "invalid signal specification")
      answer := { answer with status := 1 }
  return answer

/-- The names of all signals, or that of the one by which a status was given. -/
def listSignals (words : List Bytes) : Action Answer := do
  match words with
  | [] =>
    let names := (List.range lastSignal).map fun n => signalName (n + 1) ++ "\n"
    return { output := Bytes.ofString ("0\n" ++ String.join (names.dropLast) ++ "RTMAX\n") }
  | word :: _ =>
    let n ← Action.count word
    let signal := if n > 128 then n - 128 else n
    if signal = 0 || lastSignal < signal then
      Action.failWith (Action.of "invalid signal number or exit status" word)
    return { output := Bytes.ofString (signalName signal ++ "\n") }

/-- Says that there is no process to send a signal to. -/
def tellNoProcess (target : Bytes) : Action Unit := do
  match (← get).language with
  | .standard => Action.complain (Bytes.ofString "No such process\n")
  | .extended =>
    Action.complain (0x28 :: target ++ Bytes.ofString ") - No such process")

/-- Sends a signal to processes, or lists signals. -/
def kill (words : List Bytes) : Action Answer := do
  let language := (← get).language
  let usage {α : Type} : Action α := do
    if language = .standard then Action.fail killUsage
    Action.tell (Bytes.ofString extendedKillUsage)
    Action.setStatus 2
    throw .failed
  let send (signal : Nat) (targets : List Bytes) : Action Answer := do
    if targets.isEmpty then usage
    let mut status := 0
    for target in targets do
      if target.head? = some 0x25 then
        let _ ← findJob target
        tellNoProcess target
        status := 1
        continue
      let isGroup := target.head? = some 0x2D
      let digits := if isGroup then target.drop 1 else target
      if language.isExtended && (count? digits).isNone then
        Action.failAbout target "arguments must be process or job IDs"
      let n ← Action.count digits
      let own := (← get).number
      if !(← sendSignal signal (if n = 0 then own else n)) then
        tellNoProcess target
        status := 1
    return { status }
  match words with
  | [] => usage
  | (0x2D :: name) :: rest =>
    match signalIn? language name with
    | some signal => send signal rest
    | none =>
      let isName := language.isExtended && !(Bytes.ofString "lLns").contains (name.headD 0)
      if isName then Action.failAbout name "invalid signal specification"
      let read ← readOptions (if language.isExtended then "lLs:n:" else "ls:") words
      let mut signal : Option Nat := none
      for (letter, text) in read.options do
        if letter = 's' || letter = 'n' then
          match signalIn? language text with
          | some n => signal := some n
          | none =>
            Action.failIn (Action.of "invalid signal number or name" text)
              (Action.about text "invalid signal specification")
      if read.has 'L' || (read.has 'l' && language.isExtended) then listSignalsByName read.operands
      else if !read.has 'l' then send (signal.getD terminateSignal) read.operands
      else if signal.isSome && !read.operands.isEmpty then usage
      else listSignals read.operands
  | _ => send terminateSignal words

/-- What commands can be set for in the extended language beside signals and the end. They are not
carried out. -/
def extraTraps : List String := ["ERR", "DEBUG", "RETURN"]

/-- Sets what is done for signals and at the end, or lists it. -/
def trap (words : List Bytes) : Action Answer := do
  let language := (← get).language
  let read ← readOptions (if language.isExtended then "lp" else "") words
  if read.has 'l' then return { output := Bytes.ofString signalTable }
  let setAll (commands : Option Bytes) (names : List Bytes) : Action Answer := do
    for name in names do
      match signalIn? language name with
      | none =>
        if language.isExtended then
          if extraTraps.any fun own => Bytes.ofString own = name then continue
          Action.complain (Action.about name "invalid signal specification")
        else Action.tell (Bytes.ofString "trap: " ++ Action.about name "bad trap")
        return { status := 1 }
      | some signal =>
        let p ← get
        let others := p.traps.filter (·.1 ≠ signal)
        let isReset := commands.all (· = [0x2D])
        set (p.setTraps (if isReset then others else (signal, commands.getD []) :: others))
    return {}
  match read.operands with
  | [] =>
    let p ← get
    let line (signal : Nat) : Bytes :=
      match p.trap? signal with
      | some commands =>
        let group := if language.isExtended && signal ≠ 0 then "SIG" else ""
        Bytes.ofString "trap -- " ++ singleQuoted commands ++
          Bytes.ofString s!" {group}{signalName signal}\n"
      | none => []
    return { output := (List.range (lastSignal + 1)).flatMap line }
  | [name] => setAll none [name]
  | first :: rest =>
    if (number? first).any (· ≤ lastSignal) then setAll none (first :: rest)
    else setAll (some first) rest

end Builtin

end Intercept.Shell
