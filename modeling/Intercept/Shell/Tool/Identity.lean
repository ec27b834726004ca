import Intercept.Shell.Accounts
import Intercept.Shell.Tool.Environment

/-!
# What tools tell of the system

Tools that tell what machine they run on and for whom, and what is in their environment.
-/

namespace Intercept.Shell.Tool

/-- Writes a line, and tells by the status whether that was possible. -/
def emitLine (line : Bytes) (ending : UInt8 := Bytes.newline) : Action Nat := do
  return if ← emit (line ++ [ending]) then 0 else 1

/-- Refuses the first operand behind some that are allowed; tells whether there is one. -/
def refusesMore (use : Use) (allowed : Nat := 0) : Action Bool := do
  match use.operands.drop allowed with
  | [] => return false
  | extra :: _ =>
    refuseUse (Bytes.ofString "extra operand " ++ quotedText extra)
    return true

/-- The machine that the host system is. -/
structure Machine where
  kernel : String
  node : String
  release : String
  version : String
  hardware : String
  system : String
  deriving DecidableEq, Repr

def machine : Machine :=
  { kernel := "Linux"
    node := "localhost"
    release := "6.1.0"
    version := "#1 SMP PREEMPT_DYNAMIC"
    hardware := "x86_64"
    system := "GNU/Linux" }

/-- What is known of a machine, by letters. The processor and the platform are not known. -/
def Machine.facts (m : Machine) : List (Char × String) :=
  [('s', m.kernel), ('n', m.node), ('r', m.release), ('v', m.version), ('m', m.hardware),
    ('p', "unknown"), ('i', "unknown"), ('o', m.system)]

/-- Tells of the machine what letters ask for; what is not known is left out of the whole. -/
def uname (use : Use) : Action Nat := do
  if ← refusesMore use then return 1
  let facts := machine.facts.filter fun (letter, fact) =>
    if use.has 'a' then fact ≠ "unknown"
    else use.has letter || (letter = 's' && use.options.isEmpty)
  emitLine (Bytes.ofString (String.intercalate " " (facts.map (·.2))))

def unameOptions : Use.Known :=
  { letters := "asnrvmpio"
    names := [("all", 'a'), ("kernel-name", 's'), ("sysname", 's'), ("nodename", 'n'),
      ("kernel-release", 'r'), ("release", 'r'), ("kernel-version", 'v'), ("machine", 'm'),
      ("processor", 'p'), ("hardware-platform", 'i'), ("operating-system", 'o')] }

/-- Writes a line where there are no operands. -/
def tellLine (line : String) (use : Use) : Action Nat := do
  if ← refusesMore use then return 1
  emitLine (Bytes.ofString line)

def arch : Use → Action Nat := tellLine machine.hardware

def whoami : Use → Action Nat := tellLine "root"

/-- Nobody has logged in. -/
def logname (use : Use) : Action Nat := do
  if ← refusesMore use then return 1
  remark (Bytes.ofString "no login name")
  return 1

/-- There is no terminal. -/
def tty (use : Use) : Action Nat := do
  if ← refusesMore use then return 2
  if !use.has 's' then
    let _ ← emit (Bytes.ofString "not a tty\n")
  return 1

/-- The name of a group, or its number if it has none. -/
def groupName (number : Nat) : String :=
  ((groups.find? (·.2 = number)).map (·.1)).getD (toString number)

/-- The account of a name or a number; that of the process where there is none. -/
def account? (name : Bytes) : Option Account :=
  accounts.find? fun account =>
    Bytes.ofString account.name = name || digitsOf account.user = name

/-- What `id` tells of an account. -/
def identityText (use : Use) (account : Account) : String :=
  let group := groupName account.group
  let (user, own) := (account.name, use.has 'n')
  if use.has 'u' then if own then user else toString account.user
  else if use.hasAny "gG" then if own then group else toString account.group
  else
    s!"uid={account.user}({user}) gid={account.group}({group}) groups={account.group}({group})"

/-- Tells of accounts, or of that of the process. -/
def identity (use : Use) : Action Nat := do
  let choices := ['u', 'g', 'G'].filter use.has
  let ending := if use.has 'z' then 0 else Bytes.newline
  if 1 < choices.length then
    remark (Bytes.ofString "cannot print \"only\" of more than one choice")
    return 1
  if choices.isEmpty && use.hasAny "nr" then
    remark (Bytes.ofString "cannot print only names or real IDs in default format")
    return 1
  if choices.isEmpty && use.has 'z' then
    remark (Bytes.ofString "option --zero not permitted in default format")
    return 1
  let names := if use.operands.isEmpty then [Bytes.ofString "root"] else use.operands
  let mut status := 0
  for name in names do
    match account? name with
    | some account =>
      if (← emitLine (Bytes.ofString (identityText use account)) ending) ≠ 0 then status := 1
    | none =>
      explain "" (quotedText name) "no such user"
      status := 1
  return status

def idOptions : Use.Known :=
  { letters := "aunrgGzZ"
    names := [("user", 'u'), ("name", 'n'), ("real", 'r'), ("group", 'g'), ("groups", 'G'),
      ("zero", 'z')] }

/-- Tells of the groups of users. -/
def groupsOf (use : Use) : Action Nat := do
  if use.operands.isEmpty then return ← emitLine (Bytes.ofString (groupName 0))
  let mut status := 0
  for name in use.operands do
    match account? name with
    | some account =>
      let line := name ++ Bytes.ofString s!" : {groupName account.group}"
      if (← emitLine line) ≠ 0 then status := 1
    | none =>
      explain "" (quotedText name) "no such user"
      status := 1
  return status

/-- Shows variables of the environment, or all of it. The status tells whether each is there. -/
def printenv (use : Use) : Action Nat := do
  let ending := if use.has '0' then 0 else Bytes.newline
  let known := environment (← get)
  if use.operands.isEmpty then
    let lines := known.flatMap fun (name, value) =>
      name ++ Bytes.equalsSign :: value ++ [ending]
    return if ← emit lines then 0 else 2
  let values := use.operands.map fun name =>
    if name.contains Bytes.equalsSign then none else known.lookup name
  let lines := (values.filterMap fun value => value).flatMap (· ++ [ending])
  if !(← emit lines) then return 2
  return if values.all (·.isSome) then 0 else 1

/-- The paths of the programs that a name stands for. A name with a slash is a path. -/
def programPaths (p : Process) (name : Bytes) : List Bytes :=
  let paths := if name.contains Bytes.slash then [name]
    else candidates ((p.settingOf? "PATH").getD []) name
  paths.filter fun path =>
    match Program.nodeAt? p.tree p.directory path with
    | .ok _ => true
    | .error _ => false

/-- Shows where the programs are that names stand for. -/
def which (use : Use) : Action Nat := do
  let p ← get
  let found := use.operands.map (programPaths p)
  if !use.has 's' then
    for paths in found do
      let shown := if use.has 'a' then paths else paths.take 1
      let _ ← emit (shown.flatMap (· ++ [Bytes.newline]))
  return if found.isEmpty || found.any (·.isEmpty) then 1 else 0

/-- Sees to it that files are kept, which they are; tells of those that are not there. -/
def sync (use : Use) : Action Nat := do
  let mut status := 0
  for path in use.operands do
    let p ← get
    match p.tree.find p.directory path with
    | .ok (.node ..) => pure ()
    | .ok (.free _) =>
      explain "error opening " (shellQuoted path) Errno.noSuchFile.description
      status := 1
    | .error cause =>
      explain "error opening " (shellQuoted path) (reason cause)
      status := 1
  return status

end Intercept.Shell.Tool
