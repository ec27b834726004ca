import Intercept.Shell.Signal
import Intercept.Shell.Tool.Ends
import Intercept.Shell.Tool.Environment
import Intercept.Shell.Tool.Identity
import Intercept.Shell.Tool.Texts

/-!
# Tools that start programs

A tool can become another program, or start programs one after the other and look at how they end.
-/

namespace Intercept.Shell.Tool

/-- How a tool starts programs, each given by its name and its arguments. -/
structure Launcher where
  /-- Carries out a program in a process of its own. -/
  start : List Bytes → Action (Except Errno WaitStatus)
  /-- Makes the tool become a program. -/
  replace : List Bytes → Action (Except Errno WaitStatus)

/-- The program of some words in the environment of a tool. -/
def programOf (p : Process) (fields : List Bytes) : Except Errno Program :=
  let name := fields.headD []
  let searched := (p.settingOf? "PATH").getD (Bytes.ofString "/bin:/usr/bin")
  if name.isEmpty then .error .noSuchFile
  else p.findProgram (fun _ => true) searched name (fields.drop 1)

/-- The status of a tool that cannot start a program. -/
def statusNotStartedBy (errno : Errno) : Nat := if errno = .noSuchFile then 127 else 126

/-- Becomes the program of some words, or says why that is not possible. -/
def becomeWords (launcher : Launcher) (message : String) (shown : Bytes → Bytes)
    (words : List Bytes) : Action WaitStatus := do
  match ← launcher.replace words with
  | .ok status => return status
  | .error errno =>
    explain message (shown (words.headD [])) errno.description
    return .ofCode (statusNotStartedBy errno)

/-- Reads the options in front of a program's name, and goes on with them. -/
def withProgram (known : Use.Known) (refusal : Nat) (words : List Bytes)
    (action : Use → Action WaitStatus) (isOperand : Bytes → Bool := fun _ => false) :
    Action WaitStatus := do
  let (front, operands) := known.cutFront isOperand words
  match Use.read known {} [] front with
  | .ok use => action { use with operands }
  | .error message =>
    refuseUse message
    return .ofCode refusal

/-- Refuses to go on without a program. -/
def missesProgram (message : String) (status : Nat) : Action WaitStatus := do
  refuseUse (Bytes.ofString message)
  return .ofCode status

/-- Becomes a program that goes on when the terminal is left. There is none. -/
def nohup (launcher : Launcher) (words : List Bytes) : Action WaitStatus :=
  withProgram { letters := "" } 125 words fun use => do
    if use.operands.isEmpty then missesProgram "missing operand" 125
    else becomeWords launcher "failed to run command " shellQuoted use.operands

/-- Becomes a program without a terminal. -/
def setsid (launcher : Launcher) (words : List Bytes) : Action WaitStatus :=
  withProgram { letters := "cfw", names := [("ctty", 'c'), ("fork", 'f'), ("wait", 'w')] } 1 words
    fun use => do
      if use.operands.isEmpty then missesProgram "no command specified" 1
      else becomeWords launcher "failed to execute " nameText use.operands

/-- Whether a text is a way to hold back what is written. -/
def isBuffering (text : Bytes) : Bool := text = [0x4C] || (Amount.count? text).isSome

/-- Becomes a program that holds back what it writes in another way, which makes no difference. -/
def stdbuf (launcher : Launcher) (words : List Bytes) : Action WaitStatus :=
  withProgram
    { letters := "i:o:e:", names := [("input", 'i'), ("output", 'o'), ("error", 'e')] } 125 words
    fun use => do
      match use.options.find? fun (_, text) => !isBuffering text with
      | some (_, text) =>
        remark (Bytes.ofString "invalid mode " ++ quotedText text)
        return .ofCode 125
      | none =>
        if use.operands.isEmpty then missesProgram "missing operand" 125
        else if use.options.isEmpty then
          missesProgram "you must specify a buffering mode option" 125
        else becomeWords launcher "failed to run command " shellQuoted use.operands

/-- A word that is a number behind one or two signs, in the form of an option. -/
def withNiceness (word : Bytes) : List Bytes :=
  match word with
  | 0x2D :: rest =>
    let digits := if rest.head?.any (fun b => b = 0x2D || b = 0x2B) then rest.drop 1 else rest
    if !digits.isEmpty && digits.all isDigit then [Bytes.ofString "-n", rest] else [word]
  | _ => [word]

/-- Becomes a program that stands back behind others, or tells by how much the tool does. -/
def nice (launcher : Launcher) (words : List Bytes) : Action WaitStatus := do
  let known : Use.Known := { letters := "n:", names := [("adjustment", 'n')] }
  let isNumber (word : Bytes) : Bool := (withNiceness word).length = 2
  let old := words.takeWhile isNumber
  withProgram known 125 (old.flatMap withNiceness ++ words.drop old.length) fun use => do
    let p ← get
    let given := use.argument? 'n'
    match given.map integer? with
    | some none =>
      remark (Bytes.ofString "invalid adjustment " ++ quotedText (given.getD []))
      return .ofCode 125
    | adjustment =>
      if use.operands.isEmpty then
        if given.isSome then missesProgram "a command must be given with an adjustment" 125
        else return .ofCode (← emitLine (integerText p.niceness))
      else
        let wanted := p.niceness + (adjustment.bind fun n => n).getD 10
        set { p with niceness := max (-20) (min 19 wanted) }
        becomeWords launcher "" shellQuoted use.operands

def timeoutOptions : Use.Known :=
  { letters := "fk:ps:v"
    names := [("foreground", 'f'), ("kill-after", 'k'), ("preserve-status", 'p'), ("signal", 's'),
      ("verbose", 'v')] }

/-- The number of the signal that a tool is given by a number or a name. -/
def signalOfWord? (word : Bytes) : Option Nat :=
  let upper := capitals word
  signal? ((Bytes.dropStart? (Bytes.ofString "SIG") upper).getD word)

/-- Starts a program, to which a signal comes when some time has passed. -/
def timeout (launcher : Launcher) (words : List Bytes) : Action WaitStatus :=
  withProgram timeoutOptions 125 words fun use => do
    match use.operands with
    | [] | [_] =>
      tellHelp
      return .ofCode 125
    | time :: fields =>
      let signal? := match use.argument? 's' with
        | some word => signalOfWord? word
        | none => some terminateSignal
      match (time :: (use.argument? 'k').toList).find? (moment? · |>.isNone), signal? with
      | some word, _ =>
        refuseUse (Bytes.ofString "invalid time interval " ++ quotedText word)
        return .ofCode 125
      | _, none =>
        refuseUse (quotedText ((use.argument? 's').getD []) ++ Bytes.ofString ": invalid signal")
        return .ofCode 125
      | none, some signal =>
        let duration := (moment? time).getD 0
        let p ← get
        let moment := p.system.now + duration
        let deadline : Deadline := { process := p.number, moment, signal }
        if 0 < duration then
          set { p with system := { p.system with deadlines := deadline :: p.system.deadlines } }
        let (result, after) := (launcher.start fields).runFrom (← get)
        set after
        let isOver := match result with
          | .error .exhausted => true
          | _ => after.system.deadlines.any fun one => one.process = p.number && one.passed
        let others := after.system.deadlines.filter fun (one : Deadline) => one.process ≠ p.number
        modify fun q => { q with system := { q.system with deadlines := others } }
        if isOver && use.has 'v' then
          remark (Bytes.ofString s!"sending signal {signalName signal} to command " ++
            quotedText (fields.headD []))
        match result with
        | .ok (.error errno) =>
          explain "failed to run command " (shellQuoted (fields.headD [])) errno.description
          return .ofCode (statusNotStartedBy errno)
        | .ok (.ok status) =>
          if !isOver then return status
          else if use.has 'p' then return .ofCode status.exitCode
          else if signal = 9 then return .signalled signal
          else return .ofCode 124
        | .error .exhausted => return .ofCode 124
        | .error stop => throw stop

end Intercept.Shell.Tool
