import Intercept.Shell.Variables

/-!
# Programs

What the host system starts when it is given a path, and the path that a command's name stands for.
A file that is no program may name an interpreter in its first line, which is started instead.
-/

namespace Intercept.Shell

/-- A tool of the host system, with the name it is started by and its arguments. -/
structure Program where
  tool : String
  name : Bytes
  arguments : List Bytes
  deriving DecidableEq, Repr

/-- How many bytes of a file are looked at for the name of an interpreter. -/
def headLength : Nat := 256

/-- The interpreter that a line names, and perhaps an argument for it. Each ends at a byte zero. -/
def interpreterOf? (line : Bytes) : Option (Bytes × Option Bytes) :=
  let own := (line.reverse.dropWhile isBlank).reverse.dropWhile isBlank
  let path := own.takeWhile fun b => !isBlank b && b ≠ 0
  match own, own.drop path.length with
  | [], _ => none
  | _, 0 :: _ => some (path, none)
  | _, after =>
    match after.dropWhile isBlank with
    | [] => some (path, none)
    | argument => some (path, some (argument.takeWhile (· ≠ 0)))

/-- The interpreter that the first line of a file names, and perhaps an argument for it. The head of
the file is filled with zeros. A line that is longer is cut, unless that is in the name. -/
def interpreter? (contents : Bytes) : Option (Bytes × Option Bytes) :=
  match contents.take headLength with
  | 0x23 :: 0x21 :: rest =>
    let filled := rest ++ List.replicate (headLength - 2 - rest.length) 0
    let text := filled.takeWhile (· ≠ 0)
    if text.contains Bytes.newline then interpreterOf? (text.takeWhile (· ≠ Bytes.newline))
    else if (filled.dropWhile isBlank).any fun b => isBlank b || b = 0 then
      interpreterOf? filled.dropLast
    else none
  | _ => none

/-- How many bytes of a file are looked at to see whether it holds commands. -/
def sampleLength : Nat := 128

/-- Whether a file may hold commands: there are no control bytes in its first line, apart from those
for blanks and lines, shifts and escapes. -/
def mayHoldCommands (contents : Bytes) : Bool :=
  let sample := (contents.take sampleLength).takeWhile (· ≠ Bytes.newline)
  sample.all fun b => (0x20 ≤ b && b ≠ 0x7F) || (0x09 ≤ b && b ≤ 0x0F) || b = 0x1B

/-- The number of interpreters that may be named by one another. -/
def interpreterLimit : Nat := 6

namespace Program

/-- What is found at the path of a program: a tool, or a file that may be executed. -/
def nodeAt? (tree : Files.Tree) (directory : Files.Place) (path : Bytes) :
    Except Errno Files.Node :=
  match tree.find directory path with
  | .ok (.node place node) =>
    let mayRun := (tree.attributes? place).any (·.mode &&& 0o111 ≠ 0)
    if node.isFile && mayRun then .ok node else .error .permissionDenied
  | .ok (.free _) => .error .noSuchFile
  | .error (.numbered errno) => .error errno
  | .error _ => .error .noSuchFile

/-- What is started for a path. Each interpreter takes one from the limit. -/
def ofPath (tree : Files.Tree) (directory : Files.Place) (path name : Bytes)
    (arguments : List Bytes) : Nat → Except Errno Program
  | 0 => (nodeAt? tree directory path).bind fun _ => .error .tooManyLinks
  | limit + 1 => do
    match ← nodeAt? tree directory path with
    | .tool tool => .ok { tool, name, arguments }
    | .file contents =>
      match interpreter? contents with
      | some ([], _) => .error .permissionDenied
      | some (interpreter, argument) =>
        let words := argument.toList ++ path :: arguments
        ofPath tree directory interpreter interpreter words limit
      | none => .error .execFormat
    | _ => .error .permissionDenied

/-- The command interpreter of the host system, for a file of commands. -/
def forCommands (path : Bytes) (arguments : List Bytes) : Program :=
  { tool := "sh", name := Bytes.ofString "/bin/sh", arguments := path :: arguments }

/-- What is started for a path where a file that is no program is taken for commands if `admits`
holds of its contents. -/
def ofCommandPath (admits : Bytes → Bool) (tree : Files.Tree) (directory : Files.Place)
    (path name : Bytes) (arguments : List Bytes) : Except Errno Program :=
  match ofPath tree directory path name arguments interpreterLimit with
  | .error errno =>
    let contents := ((tree.read directory path).toOption).getD []
    if errno = .execFormat && admits contents then .ok (forCommands path arguments)
    else .error errno
  | outcome => outcome

end Program

/-- The paths of a name in the directories of a search path. -/
def candidates (searched name : Bytes) : List Bytes :=
  (Bytes.splitAt 0x3A searched).map fun place =>
    if place = [] then name else place ++ Bytes.slash :: name

/-- The first of some paths that leads to a file. The error is that of the last path that leads to
something else. -/
def firstFile (tree : Files.Tree) (directory : Files.Place) (errno : Errno) :
    List Bytes → Except Errno Bytes
  | [] => .error errno
  | path :: paths =>
    match tree.find directory path with
    | .ok (.node _ node) =>
      if node.isFile then .ok path else firstFile tree directory .permissionDenied paths
    | .error (.numbered other) =>
      firstFile tree directory (if other.isAbsence then errno else other) paths
    | _ => firstFile tree directory errno paths

/-- The first of some paths that leads to a program. -/
def firstProgram (admits : Bytes → Bool) (tree : Files.Tree) (directory : Files.Place)
    (name : Bytes) (arguments : List Bytes) (errno : Errno) :
    List Bytes → Except Errno Program
  | [] => .error errno
  | path :: paths =>
    match Program.ofCommandPath admits tree directory path name arguments with
    | .ok program => .ok program
    | .error other =>
      let errno := if other.isAbsence then errno else other
      firstProgram admits tree directory name arguments errno paths

namespace Process

/-- The path of the file that a command's name stands for. -/
def findFile (p : Process) (searched name : Bytes) : Except Errno Bytes :=
  firstFile p.tree p.directory .noSuchFile (candidates searched name)

/-- The program that a command's name stands for; one with a slash in it is a path. -/
def findProgram (p : Process) (admits : Bytes → Bool) (searched name : Bytes)
    (arguments : List Bytes) : Except Errno Program :=
  if name.contains Bytes.slash then
    Program.ofCommandPath admits p.tree p.directory name name arguments
  else
    firstProgram admits p.tree p.directory name arguments .noSuchFile
      (candidates searched name)

/-- The process when it has become a program with an environment. Signals that it ignores are still
ignored. -/
def become (p : Process) (program : Program) (environment : List (Bytes × Bytes)) : Process :=
  let guards := p.system.guards.filter fun g => g.process ≠ p.number || !g.answers
  { system := { p.system with guards }
    number := p.number
    ancestors := p.ancestors
    shellNumber := p.number
    directory := p.directory
    name := program.name
    arguments := program.arguments
    bindings := environment.map fun (name, value) =>
      (name, { value := some value, exported := true })
    channels := p.channels
    mask := p.mask
    niceness := p.niceness }

end Process

/-- What is said of a name that stands for no command. -/
def whyNotFound (language : Language) (errno : Errno) : String :=
  match language with
  | .standard => if errno.isAbsence then "not found" else errno.description
  | .extended => if errno = .noSuchFile then "command not found" else errno.description

/-- The status of a command that could not be started. -/
def statusNotStarted (errno : Errno) : Nat :=
  if errno.isAbsence || errno = .tooManyLinks || errno = .nameTooLong then 127 else 126

end Intercept.Shell
