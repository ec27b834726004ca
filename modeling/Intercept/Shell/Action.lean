import Intercept.Shell.Process

/-!
# Computations in a process

A computation in a process changes its state, and may be stopped. It writes messages and the output
of the commands of the shell.
-/

namespace Intercept.Shell

/-- Why a computation is stopped. -/
inductive Stop where
  /-- A message tells why. -/
  | failed
  /-- The shell ends; `asked` if a command has asked for it. -/
  | ended (asked : Bool)
  /-- The process has become another program, which has ended. -/
  | replaced (status : WaitStatus)
  | killed (signal : Nat)
  /-- A job has to be put off for some time. -/
  | paused (duration : Files.Moment)
  | exhausted

/-- A computation in a process. Its state is kept where it is stopped. -/
abbrev Action := ExceptT Stop (StateM Process)

/-- What a command of the shell comes to: what it writes when it is done, and its status. -/
structure Answer where
  output : Bytes := []
  status : Nat := 0
  deriving DecidableEq, Repr

namespace Action

/-- Runs the computation from a state. -/
def runFrom {α : Type} (action : Action α) (p : Process) : Except Stop α × Process :=
  (ExceptT.run action).run p

/-- Carries out a computation and then a change of the state, also where it was stopped. -/
def andThen {α : Type} (action : Action α) (change : Process → Process) : Action α := do
  let (result, after) := action.runFrom (← get)
  set (change after)
  match result with
  | .ok a => return a
  | .error stop => throw stop

/-- Carries out a computation, and gives nothing where it has failed. -/
def attempt {α : Type} (action : Action α) : Action (Option α) := do
  let (result, after) := action.runFrom (← get)
  set after
  match result with
  | .ok a => return some a
  | .error .failed => return none
  | .error stop => throw stop

def setStatus (status : Nat) : Action Unit := modify fun p => { p with status }

/-- Sets the line that messages are about. -/
def setLine (line : Nat) : Action Unit := modify fun p => { p with line }

/-- How often a process writes to a stream before it is taken to do so for ever. -/
def writeLimit : Nat := 300000

/-- Writes to a channel, or gives the reason why that is not possible. -/
def writeTo (channel : Nat) (bytes : Bytes) : Action (Except Errno Unit) := do
  if bytes.isEmpty then return .ok ()
  let p ← get
  if let some (.writing index) := p.channels.lookup channel then
    if p.system.streams[index]?.any (writeLimit ≤ ·.written) then throw .exhausted
  match p.write channel bytes with
  | .ok p =>
    set p
    return .ok ()
  | .error errno => return .error errno

/-- Writes to a channel, and tells whether that was possible. -/
def write (channel : Nat) (bytes : Bytes) : Action Bool := do
  return (← writeTo channel bytes).toBool

/-- Writes a message as it is. -/
def tell (message : Bytes) : Action Unit := do
  let _ ← write 2 (message ++ [Bytes.newline])

/-- Writes a message that says where it comes from. -/
def complain (message : Bytes) : Action Unit := do
  let p ← get
  let number := match p.language with
    | .standard => s!": {p.line}: "
    | .extended => s!": line {p.line}: "
  let place := p.name ++ Bytes.ofString number
  let command := (p.command.map (· ++ Bytes.ofString ": ")).getD []
  tell (place ++ command ++ message)

/-- Writes a message and stops. -/
def failWith {α : Type} (message : Bytes) : Action α := do
  complain message
  setStatus (← get).language.failure
  throw .failed

/-- Writes a message and stops. -/
def fail {α : Type} (message : String) : Action α := failWith (Bytes.ofString message)

/-- A word in front of a message. -/
def about (word : Bytes) (message : String) : Bytes := word ++ Bytes.ofString s!": {message}"

/-- A message in front of a word. -/
def of (message : String) (word : Bytes) : Bytes := Bytes.ofString s!"{message}: " ++ word

/-- Fails because of a word. -/
def failAbout {α : Type} (word : Bytes) (message : String) : Action α :=
  failWith (about word message)

/-- Fails with what is said in the language of the shell. -/
def failIn {α : Type} (standard extended : Bytes) : Action α := do
  failWith (match (← get).language with
    | .standard => standard
    | .extended => extended)

/-- Fails because a command is not used as it should be. -/
def failUse {α : Type} (standard extended : Bytes) : Action α := do
  complain (match (← get).language with
    | .standard => standard
    | .extended => extended)
  setStatus 2
  throw .failed

/-- Fails because an argument is no number. -/
def failNumber {α : Type} (word : Bytes) : Action α :=
  failIn (of "Illegal number" word) (about word "numeric argument required")

/-- Fails because an argument is no name of a variable. -/
def failName {α : Type} (name word : Bytes) : Action α :=
  failIn (about name "bad variable name")
    (0x60 :: word ++ Bytes.ofString "': not a valid identifier")

/-- Says why a text is no program, and shows the line where that came out. -/
def tellFlaw (refusal : Refusal) (shown : Bytes) : Action Unit := do
  let p ← get
  let label := ((p.command <|> p.textName).map (Bytes.ofString ": " ++ ·)).getD []
  let place := p.name ++ label
  match refusal.flaw with
  | .unexpected .endOfText _ =>
    tell (place ++ Bytes.ofString s!": line {refusal.line}: {refusal.flaw.extendedMessage}")
  | .unexpected .. =>
    tell (place ++ Bytes.ofString s!": line {refusal.line}: {refusal.flaw.extendedMessage}")
    tell (place ++ Bytes.ofString s!": line {refusal.line}: `" ++ shown ++ [0x27])
  | flaw => tell (place ++ Bytes.ofString s!": line {refusal.line - 1}: {flaw.extendedMessage}")

/-- Fails because a text is no program. -/
def failRead {α : Type} (refusal : Refusal) (shown : Bytes := []) : Action α := do
  setLine refusal.line
  match (← get).language with
  | .standard => fail s!"Syntax error: {refusal.flaw.message}"
  | .extended =>
    tellFlaw refusal shown
    setStatus 2
    throw .failed

/-- A number that is not negative, given as an argument. -/
def count (word : Bytes) : Action Nat :=
  match count? word with
  | some n => return n
  | none => failNumber word

/-- Writes what a command of the shell wants to be written, and gives its status. -/
def finish (answer : Answer) : Action Nat := do
  if ← write 1 answer.output then return answer.status
  let p ← get
  complain (about (p.command.getD []) "I/O error")
  return answer.status ||| 1

/-- Carries out a computation with other channels. -/
def withChannels {α : Type} (action : Action α) : Action α := do
  let before ← get
  action.andThen fun after => { after with channels := before.channels }

end Action

end Intercept.Shell
