import Intercept.Shell.Programs
import Intercept.Shell.Tool.Splitting
import Intercept.Shell.Tool.Usage

/-!
# Setting the environment of a program

A tool that shows its environment, or starts a program in a changed one. Its options can stand in
one text, which is split into words.
-/

namespace Intercept.Shell.Tool

/-- What the words of the tool ask for. -/
structure EnvironmentUse where
  /-- Whether the environment is empty at first. -/
  clears : Bool := false
  /-- The names that are left out. -/
  removed : List Bytes := []
  /-- The directory in which the program is started. -/
  directory : Option Bytes := none
  /-- The byte that ends a line. -/
  lineEnd : UInt8 := Bytes.newline
  /-- Whether the tool tells what it does. -/
  tells : Bool := false
  /-- A text that is to be split, whose words stand in front of the operands. -/
  text : Option Bytes := none
  /-- Assignments, and a program with its arguments. -/
  operands : List Bytes := []

/-- Why the tool does nothing: messages, behind which it may say where help is found. -/
structure EnvironmentRefusal where
  messages : List Bytes
  tellsHelp : Bool := true

/-- What is said to those who take all words behind a tool in the first line of a script for more
than one. -/
def splittingHint : Bytes := Bytes.ofString "use -[v]S to pass options in shebang lines"

namespace EnvironmentUse

/-- The letters of options that take an argument. -/
def argumentLetters : Bytes := Bytes.ofString "uCS"

/-- The longer names of options. -/
def longNames : List (String × UInt8) :=
  [("ignore-environment", 0x69), ("null", 0x30), ("unset", 0x75), ("chdir", 0x43),
    ("split-string", 0x53), ("debug", 0x76)]

/-- Takes up an option without an argument; none if there is no such option. -/
def withLetter? (use : EnvironmentUse) (letter : UInt8) : Option EnvironmentUse :=
  match Bytes.asChar letter with
  | 'i' => some { use with clears := true }
  | '0' => some { use with lineEnd := 0 }
  | 'v' => some { use with tells := true }
  | _ => none

/-- Takes up an option with its argument, behind which words are left. -/
def withArgument (use : EnvironmentUse) (letter : UInt8) (argument : Bytes) : EnvironmentUse :=
  match Bytes.asChar letter with
  | 'u' => { use with removed := use.removed ++ [argument] }
  | 'C' => { use with directory := some argument }
  | _ => { use with text := some argument }

/-- Refuses a letter that is no option. -/
def refuseLetter (letter : UInt8) : EnvironmentRefusal :=
  let message := Bytes.ofString "invalid option -- '" ++ letter :: Bytes.ofString "'"
  { messages := if isSpace letter then [message, splittingHint] else [message] }

/-- Reads the letters that are left of a word, and the words behind it, up to the first that is no
option or a text that is to be split. -/
def read (use : EnvironmentUse) (letters : Bytes) (words : List Bytes) :
    Except EnvironmentRefusal EnvironmentUse :=
  if use.text.isSome then .ok { use with operands := words }
  else
    match letters, words with
    | letter :: letters, words =>
      if argumentLetters.contains letter then
        match letters, words with
        | _ :: _, words => read (use.withArgument letter letters) [] words
        | [], argument :: words => read (use.withArgument letter argument) [] words
        | [], [] =>
          .error
            { messages := [Bytes.ofString "option requires an argument -- '" ++ [letter, 0x27]] }
      else
        match use.withLetter? letter with
        | some use => read use letters words
        | none => .error (refuseLetter letter)
    | [], [] => .ok use
    | [], word :: words =>
      match word with
      | [0x2D] => .ok { use with operands := word :: words }
      | [0x2D, 0x2D] => .ok { use with operands := words }
      | 0x2D :: 0x2D :: rest =>
        let (name, argument) := Bytes.breakAt Bytes.equalsSign rest
        let refuse (start : String) (end_ : String) : EnvironmentRefusal :=
          { messages := [Bytes.ofString start ++ name ++ Bytes.ofString end_] }
        match longNames.find? fun (own, _) => Bytes.ofString own = name with
        | none =>
          .error { messages := [Bytes.ofString "unrecognized option '" ++ word ++ [0x27]] }
        | some (_, letter) =>
          match argumentLetters.contains letter, argument, words with
          | true, some argument, words => read (use.withArgument letter argument) [] words
          | true, none, argument :: words => read (use.withArgument letter argument) [] words
          | true, none, [] => .error (refuse "option '--" "' requires an argument")
          | false, some _, _ => .error (refuse "option '--" "' doesn't allow an argument")
          | false, none, words => read ((use.withLetter? letter).getD use) [] words
      | 0x2D :: letter :: letters => read use (letter :: letters) words
      | _ => .ok { use with operands := word :: words }
termination_by (words.length, letters.length)

/-- What is told of a text that has been split. -/
def splitReport (text : Bytes) (words : List Bytes) : List Bytes :=
  let own (front : String) (bytes : Bytes) : Bytes := Bytes.ofString front ++ quotedText bytes
  match words with
  | [] => []
  | word :: words =>
    own "split -S:  " text :: own " into:    " word :: words.map (own "     &    ")

/-- How many texts can be split one after another. -/
def splitLimit : Nat := 100

/-- Reads words, splits texts among them, and gives what is told of that too. A minus sign alone
empties the environment. -/
def readAll (value : Bytes → Option Bytes) :
    Nat → EnvironmentUse → List Bytes → List Bytes →
      Except EnvironmentRefusal (EnvironmentUse × List Bytes)
  | 0, use, report, _ => .ok (use, report)
  | limit + 1, use, report, words => do
    let use ← read use [] words
    match use.text with
    | some text =>
      match splitText value text with
      | .error message => .error { messages := [message], tellsHelp := false }
      | .ok own =>
        let told := if use.tells then splitReport text own else []
        readAll value limit { use with text := none } (report ++ told) (own ++ use.operands)
    | none =>
      match use.operands with
      | [0x2D] :: operands => .ok ({ use with clears := true, operands }, report)
      | _ => .ok (use, report)

end EnvironmentUse

/-- The variables of a process, in the order in which they were given. -/
def environment (p : Process) : List (Bytes × Bytes) :=
  p.bindings.filterMap fun (name, v) => v.value.map fun value => (name, value)

/-- Stops the tool with its messages. -/
def refuseEnvironment (refusal : EnvironmentRefusal) : Action (Except Nat Program) := do
  for message in refusal.messages do remark message
  if refusal.tellsHelp then tellHelp
  return .error 125

/-- Stops the tool with a message. -/
def refuseWith (message : String) : Action (Except Nat Program) :=
  refuseEnvironment { messages := [Bytes.ofString message] }

/-- Leaves variables out, and gives the first name that no variable can have. -/
def leaveOut (use : EnvironmentUse) : Action (Option Bytes) := do
  let tell (message : String) (bytes : Bytes) : Action Unit := do
    if use.tells then Action.tell (Bytes.ofString message ++ bytes)
  if use.clears then
    tell "cleaning environ" []
    modify fun p => { p with bindings := [] }
    return none
  for name in use.removed do
    tell "unset:    " name
    if name.isEmpty || name.contains Bytes.equalsSign then return some name
    modify fun p => { p with bindings := p.bindings.filter fun (own, _) => own ≠ name }
  return none

/-- Goes to a directory, or gives the reason why that is not possible. -/
def enterDirectory (path : Bytes) : Action (Option String) := do
  let p ← get
  match p.tree.find p.directory path with
  | .ok (.node place .directory) =>
    set { p with directory := place }
    return none
  | .ok (.node ..) => return some Errno.notDirectory.description
  | .ok (.free _) => return some Errno.noSuchFile.description
  | .error cause => return some (reason cause)

/-- The program of some words in the environment, or the status with which the tool ends. -/
def programIn (use : EnvironmentUse) (name : Bytes) (arguments : List Bytes) :
    Action (Except Nat Program) := do
  if let some path := use.directory then
    if use.tells then Action.tell (Bytes.ofString "chdir:    " ++ shellQuoted path)
    if let some why ← enterDirectory path then
      explain "cannot change directory to " (shellQuoted path) why
      return .error 125
  if use.tells then
    Action.tell (Bytes.ofString "executing: " ++ name)
    for (word, index) in (name :: arguments).zipIdx do
      Action.tell (Bytes.ofString s!"   arg[{index}]= " ++ quotedText word)
  let p ← get
  let searched := (p.settingOf? "PATH").getD (Bytes.ofString "/bin:/usr/bin")
  let found :=
    if name.isEmpty then .error .noSuchFile
    else p.findProgram (fun _ => true) searched name arguments
  match found with
  | .ok program => return .ok program
  | .error errno =>
    explain "" (quotedText name) errno.description
    if errno = .noSuchFile && name.any isSpace then remark splittingHint
    return .error (if errno = .noSuchFile then 127 else 126)

/-- Changes the environment, and gives the program that is to be started in it, or the status of the
tool. -/
def changeEnvironment (words : List Bytes) : Action (Except Nat Program) := do
  match EnvironmentUse.readAll (← get).setting? EnvironmentUse.splitLimit {} [] words with
  | .error refusal => refuseEnvironment refusal
  | .ok (use, report) =>
    for line in report do Action.tell line
    if let some name ← leaveOut use then
      explain "cannot unset " (quotedText name) Errno.invalidArgument.description
      return .error 125
    let assignments := use.operands.takeWhile (·.contains Bytes.equalsSign)
    for assignment in assignments do
      if use.tells then Action.tell (Bytes.ofString "setenv:   " ++ assignment)
      let (name, value) := Bytes.breakAt Bytes.equalsSign assignment
      modify (·.putVariable name { value, exported := true })
    match use.operands.drop assignments.length with
    | [] =>
      if use.directory.isSome then
        return ← refuseWith "must specify command with --chdir (-C)"
      let line : Bytes × Bytes → Bytes
        | (name, value) => name ++ Bytes.equalsSign :: value ++ [use.lineEnd]
      return .error (if ← emit ((environment (← get)).flatMap line) then 0 else 125)
    | name :: arguments =>
      if use.lineEnd = 0 then return ← refuseWith "cannot specify --null (-0) with command"
      programIn use name arguments

end Intercept.Shell.Tool
