import Intercept.Shell.Builtin.Naming
import Intercept.Shell.Builtin.Places
import Intercept.Shell.Channels

/-!
# The start of a shell

A shell starts with variables of its own beside those that it is given. Its words ask for a text of
commands, for a file of them, or for what can be read.
-/

namespace Intercept.Shell

/-- The variables of a shell that is given none, with their values. -/
def firstVariables : Language → List (Bytes × Bytes)
  | .standard =>
    named [("PS4", Bytes.ofString "+ "), ("PS2", Bytes.ofString "> "), ("PS1", Bytes.ofString "# "),
      ("PATH", standardPath), ("OPTIND", digitsOf 1),
      ("IFS", [Bytes.space, Bytes.tab, Bytes.newline])]
  | .extended =>
    named [("PS4", Bytes.ofString "+ "), ("PATH", standardPath), ("OPTIND", digitsOf 1),
      ("OPTERR", digitsOf 1), ("IFS", [Bytes.space, Bytes.tab, Bytes.newline]),
      ("UID", digitsOf 0), ("EUID", digitsOf 0), ("OSTYPE", Bytes.ofString "linux-gnu"),
      ("HOSTTYPE", Bytes.ofString "x86_64"), ("TERM", Bytes.ofString "dumb"),
      ("MACHTYPE", Bytes.ofString "x86_64-pc-linux-gnu"), ("SHELL", Bytes.ofString "/bin/bash"),
      ("BASH_VERSION", Bytes.ofString "5.2.15(1)-release")]
where
  named (pairs : List (String × Bytes)) : List (Bytes × Bytes) :=
    pairs.map fun (name, value) => (Bytes.ofString name, value)

/-- The variables of a shell whose values are not taken from what it is given. -/
def ownNames : List Bytes := ["IFS", "OPTIND"].map Bytes.ofString

namespace Process

/-- The path of the directory, as it is given if it leads there. -/
def startPath (p : Process) : Bytes :=
  match p.settingOf? "PWD" with
  | some path@(0x2F :: _) =>
    if (p.tree.node? p.directory path).any fun (place, _) => place = p.directory then path
    else Files.placeText p.directory
  | _ => Files.placeText p.directory

/-- The process with another number of shells that have been started inside one another. -/
def withLevel (p : Process) (change : Int) : Process :=
  let name := Bytes.ofString "SHLVL"
  let level := (((p.setting? name).bind integer?).getD 0) + change
  p.putVariable name { value := some (integerText (max 0 level)), exported := true }

/-- The process with the variables of a shell that starts in it. -/
def withFirstVariables (p : Process) : Process :=
  let path := p.startPath
  let given := p.bindings.filter fun (name, _) => isName name
  let own (value : Bytes) : Variable := { value := some value }
  let first := { p with
    bindings := (firstVariables p.language).map fun (name, value) => (name, own value) }
  let add (q : Process) : Bytes × Variable → Process
    | (name, v) =>
      q.putVariable name (if ownNames.contains name then { v with value := q.setting? name } else v)
  let all := given.foldl add first
  let parent : Variable :=
    { value := some (digitsOf (p.ancestors.headD 0))
      exported := (all.binding? (Bytes.ofString "PPID")).any (·.exported) }
  let placed := (all.putVariable (Bytes.ofString "PPID") parent).putVariable (Bytes.ofString "PWD")
    { value := some path, exported := true }
  let counted := if p.language.isExtended then placed.withLevel 1 else placed
  { counted with directoryPath := path }

end Process

/-- What a shell is to carry out. -/
structure Startup where
  /-- The text that it is given. -/
  text : Option Bytes := none
  /-- The commands of a file, or those that can be read. -/
  script : Option Bytes := none

/-- Takes all that can be read. -/
def takeInput : Action Bytes := do
  let p ← get
  let input := p.input 0
  set (p.consume 0 input.length)
  return input

/-- Fails because of what a shell is asked for at its start. -/
def failStart {α : Type} (message : Bytes) (status : Nat) : Action α := do
  Action.tell ((← get).name ++ Bytes.ofString ": " ++ message)
  Action.setStatus status
  throw .failed

/-- The commands of the file at a path. -/
def scriptAt (path : Bytes) : Action Bytes := do
  let p ← get
  match p.language, p.read path with
  | .extended, .error (.numbered errno) =>
    if errno = .isDirectory then modify fun p => { p with name := path }
    failStart (Action.about path errno.description) (if errno.isAbsence then 127 else 126)
  | _, _ => contentsAt path

/-- What the arguments of a shell say that it is to carry out. They become its name and the
arguments that are left. -/
def takeProgram (read : SwitchWords) (readsInput : Bool) : Action Startup := do
  match read.fromText, (← get).arguments with
  | true, [] =>
    if read.language.isExtended then
      failStart (Bytes.ofString "-c: option requires an argument") 2
    Action.fail "-c requires an argument"
  | true, text :: operands =>
    modify fun p => { p with name := operands.headD p.name, arguments := operands.drop 1 }
    if read.fromInput && read.language = .standard then
      return { text := some text, script := some (← takeInput) }
    return { text := some text }
  | false, operands =>
    if readsInput then return { script := some (← takeInput) }
    let path := operands.headD []
    let script ← scriptAt path
    modify fun p => { p with name := path, arguments := operands.drop 1 }
    return { script := some script }

/-- Options of several letters at the start of a shell of the extended language, each with the
number of words that it takes. -/
def startOptions : List (String × Nat) :=
  [("debugger", 0), ("init-file", 1), ("login", 0), ("noediting", 0), ("noprofile", 0), ("norc", 0),
    ("posix", 0), ("rcfile", 1), ("restricted", 0), ("verbose", 0)]

/-- The words behind such options, or the first one that is none. -/
def behindOptions (count : Nat) (words : List Bytes) : Except Bytes (List Bytes) :=
  match count, words with
  | 0, _ => .ok words
  | count + 1, (0x2D :: 0x2D :: letter :: letters) :: rest =>
    let name := letter :: letters
    match startOptions.find? fun (own, _) => Bytes.ofString own = name with
    | some (_, taken) => behindOptions count (rest.drop taken)
    | none => .error (0x2D :: 0x2D :: name)
  | _, words => .ok words

/-- How a shell of the extended language is used. -/
def startUsage (name : Bytes) : Bytes :=
  let names := ["debug", "debugger", "dump-po-strings", "dump-strings", "help", "init-file",
    "login", "noediting", "noprofile", "norc", "posix", "pretty-print", "rcfile", "restricted",
    "verbose", "version"]
  Bytes.ofString "Usage:\t" ++ name ++ Bytes.ofString " [GNU long option] [option] ...\n\t" ++
    name ++ Bytes.ofString (" [GNU long option] [option] script-file ...\nGNU long options:\n" ++
      String.join (names.map fun name => "\t--" ++ name ++ "\n") ++ "Shell options:\n" ++
      "\t-ilrsD or -c command or -O shopt_option\t\t(invocation only)\n" ++
      "\t-abefhkmnptuvxBCEHPT or -o option")

/-- Fails because a word asks for nothing that a shell of the extended language knows. -/
def refuseStart {α : Type} (word : Bytes) : Action α := do
  let name := (← get).name
  Action.tell (name ++ Bytes.ofString ": " ++ Action.about word "invalid option")
  Action.tell (startUsage name)
  Action.setStatus 2
  throw .failed

/-- Starts a shell with the words that are the arguments of the process. -/
def startUp : Action Startup := do
  modify Process.withFirstVariables
  let p ← get
  let words ← match p.language, behindOptions p.arguments.length p.arguments with
    | .standard, _ => pure p.arguments
    | .extended, .ok words => pure words
    | .extended, .error word => refuseStart word
  let read := SwitchWords.read p.language true (.atStart p.language) words
  if let some word := read.flaw then
    if read.language.isExtended && !read.isNamed then refuseStart (0x2D :: word)
    refuseSwitches read word
  let operands := read.operands.getD []
  let readsInput := read.fromInput || operands.isEmpty
  let isText := read.fromText && read.language.isExtended
  let switches := if isText then read.switches.turn true "command"
    else if readsInput then read.switches.turn true "stdin" else read.switches
  modify fun p => { p with switches, arguments := operands }
  let start ← takeProgram read readsInput
  settleSwitches
  let _ ← Action.write 1 read.listing
  return start

end Intercept.Shell
