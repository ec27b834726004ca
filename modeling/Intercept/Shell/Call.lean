import Intercept.Shell.Builtin.Table
import Intercept.Shell.Channels

/-!
# Calls

The words of a simple command are expanded one after the other. The first field is the name of a
command; behind `command` and its options stands another name. What the name stands for decides how
the words behind it are expanded.
-/

namespace Intercept.Shell

/-- What the next field of a call is taken for. -/
inductive NextField where
  | name
  /-- An option of `command`, or a name. -/
  | option
  /-- The name behind the options of `command`. -/
  | operand
  | argument
  deriving DecidableEq, Repr

/-- What is known of a simple command from its fields. -/
structure Call where
  /-- The name of the command and what follows it. -/
  fields : List Bytes := []
  /-- What stands in front of the name: `command` and its options. -/
  opening : List Bytes := []
  next : NextField := .name
  /-- The command of the shell that the name stands for. -/
  builtin : Option Builtin := none
  /-- Whether the first command of the shell that was named is special. -/
  isSpecial : Option Bool := none
  /-- Whether the command is looked for in the standard places. -/
  usesStandard : Bool := false
  /-- Whether the name cannot be that of a function. -/
  passesFunctions : Bool := false

namespace Call

/-- The call with a field as the name of its command. -/
def named (language : Language) (isFunction : Bytes → Bool) (call : Call) (field : Bytes) : Call :=
  let passesFunctions := call.next ≠ .name
  let found : Call :=
    { call with
      fields := [field]
      opening := call.opening ++ call.fields
      next := .argument
      builtin := none
      passesFunctions }
  if !passesFunctions && isFunction field then found
  else
    match Builtin.find? language field with
    | none => found
    | some builtin =>
      { found with
        next := match builtin.work with
          | .command => .option
          | _ => .argument
        builtin := some builtin
        isSpecial := some (call.isSpecial.getD builtin.isSpecial) }

/-- The call with another field. -/
def push (language : Language) (isFunction : Bytes → Bool) (call : Call) (field : Bytes) : Call :=
  let pushed : Call := { call with fields := call.fields ++ [field] }
  match call.next with
  | .argument => pushed
  | .option =>
    match field with
    | [0x2D, 0x2D] => { pushed with next := .operand }
    | 0x2D :: letter :: letters =>
      if (letter :: letters).all (· = 0x70) then { pushed with usesStandard := true }
      else { pushed with next := .argument }
    | _ => call.named language isFunction field
  | _ => call.named language isFunction field

/-- Whether what is assigned in front of the command is local to it. -/
def isLocal (call : Call) : Bool := !call.fields.isEmpty && call.isSpecial ≠ some true

/-- Whether the shell is to become another program, or its channels are to stay as they are. -/
def isReplacement (call : Call) : Bool :=
  call.builtin.any fun builtin =>
    match builtin.work with
    | .become => true
    | _ => false

end Call

/-- Expands the words of a simple command. -/
def expandCall (output : Command → Action Bytes) (call : Call) : List Word → Action Call
  | [] => return call
  | word :: words => do
    let assigns := call.next = .argument && call.builtin.any (·.assigns)
    let fields ← (if assigns then expandDeclaration else expandWord) output word
    let p ← get
    let isFunction (name : Bytes) : Bool := (p.functions.lookup name).isSome
    expandCall output (fields.foldl (Call.push p.language isFunction) call) words

/-- Assigns a value in front of the command of a call, and gives the assignment as it is shown. -/
def assign (call : Call) (name value : Bytes) : Action Bytes := do
  let shown := name ++ Bytes.equalsSign :: value
  if call.isLocal then makeLocal { exported := true } shown
  else bind { exported := call.isReplacement && call.fields.length > 1 } name (some value)
  return shown

/-- Assigns such a value. In the extended language a command is carried out also where that
fails. -/
def assignOrGoOn (call : Call) (name value : Bytes) : Action Bytes := do
  if !(← get).language.isExtended || call.fields.isEmpty then return ← assign call name value
  return (← (assign call name value).attempt).getD []

/-- The text that stands in front of a line of a trace. -/
def traceStart (output : Command → Action Bytes) : Action Bytes := do
  let text := ((← get).settingOf? "PS4").getD []
  let expanded : Action Bytes := do
    match Reader.text.run
        { rest := text, language := (← get).language, documents := (← get).documents } with
    | .ok (word, _) => expandText output .document word
    | .error refusal => Action.failRead refusal
  return (← expanded.attempt).getD text

/-- Writes fields to a channel where that is to be shown. -/
def trace (output : Command → Action Bytes) (channel : Option Channel) (fields : List Bytes) :
    Action Unit := do
  let p ← get
  if p.switches.traces && !p.isTracing then
    set { p with isTracing := true }
    let start ← (traceStart output).andThen fun after => { after with isTracing := false }
    Action.withChannels do
      connect 2 channel
      Action.tell (start ++ Bytes.joinWith Bytes.space fields)

/-- Finds the file of a command's name, and remembers it; a message tells that there is none. -/
def findCommand (usesStandard : Bool) (name : Bytes) : Action Bool := do
  let p ← get
  if name.contains Bytes.slash || (!usesStandard && (p.knownPath? name).isSome) then return true
  match p.findFile (if usesStandard then standardPath else p.searchedPath) name with
  | .ok path =>
    if !usesStandard then set (p.learn name path)
    return true
  | .error errno =>
    Action.complain (Action.about name (whyNotFound p.language errno))
    return false

/-- Remembers where the program is that a stage of a pipeline names. -/
def foresee (stage : Command) : Action Unit := do
  let p ← get
  match stage with
  | .simple _ _ (word :: _) _ =>
    let name := (plainText? word).getD []
    let isFile := isName name && (Builtin.find? p.language name).isNone &&
      (p.functions.lookup name).isNone && (p.knownPath? name).isNone
    match if isFile then p.findFile p.searchedPath name else .error .noSuchFile with
    | .ok path => set (p.learn name path)
    | .error _ => return ()
  | _ => return ()

/-- Says why no program could be started for a name. -/
def tellNotStarted (name : Bytes) (errno : Errno) : Action Unit := do
  let p ← get
  match p.language with
  | .standard => Action.complain (Action.about name (whyNotFound .standard errno))
  | .extended =>
    let isPath := name.contains Bytes.slash
    let found := if isPath then (p.tree.node? p.directory name).map (·.2) else none
    let isAbsent := errno = .noSuchFile
    let why := match found with
      | some .directory => Errno.isDirectory.description
      | some _ => if isAbsent then "cannot execute: required file not found" else errno.description
      | none => if isAbsent && !isPath then "not found" else errno.description
    Action.complain (Action.about name why)

/-- The program that the fields of a command stand for; none where a message tells why. -/
def programFor (searched : Bytes) (fields : List Bytes) : Action (Option Program) := do
  let name := fields.headD []
  match (← get).findProgram mayHoldCommands searched name (fields.drop 1) with
  | .ok program => return some program
  | .error errno =>
    tellNotStarted name errno
    Action.setStatus (statusNotStarted errno)
    return none

end Intercept.Shell
