import Intercept.Shell.Builtin.Control
import Intercept.Shell.Builtin.Declarations
import Intercept.Shell.Builtin.Extended
import Intercept.Shell.Builtin.Input
import Intercept.Shell.Builtin.Naming
import Intercept.Shell.Builtin.Places
import Intercept.Shell.Builtin.Processes
import Intercept.Shell.Builtin.Texts

/-!
# The commands of the shell itself

A command of the shell is found by its name. A failure in a special one ends the shell.
-/

namespace Intercept.Shell

/-- What a command of the shell does. -/
inductive BuiltinWork where
  | plain (run : List Bytes → Action Answer)
  /-- Carries out its arguments as a text of commands. -/
  | text
  /-- Carries out a file of commands. -/
  | file
  /-- Makes the shell become another program. -/
  | become
  /-- Carries out another command. -/
  | command
  /-- Waits for jobs. -/
  | wait

structure Builtin where
  isSpecial : Bool := false
  /-- Whether arguments that look like assignments are expanded like them. -/
  assigns : Bool := false
  work : BuiltinWork

namespace Builtin

/-- Whether a command of the shell is special; none for another name. -/
def isSpecial? (language : Language) (name : Bytes) : Option Bool :=
  let shared := ["[", "alias", "bg", "cd", "command", "echo", "false", "fg", "getopts", "hash",
    "jobs", "kill", "printf", "pwd", "read", "test", "true", "type", "ulimit", "umask", "unalias",
    "wait"]
  let others := shared ++ match language with
    | .standard => ["chdir"]
    | .extended => ["builtin", "declare", "disown", "let", "shopt", "source", "typeset"]
  if specialCommands.any fun text => Bytes.ofString text = name then some true
  else if others.any fun text => Bytes.ofString text = name then some false
  else none

/-- What the command of a name does. -/
def workOf (language : Language) (name : String) : BuiltinWork :=
  match name with
  | "eval" => .text
  | "." => .file
  | "source" => .file
  | "exec" => .become
  | "command" => .command
  | "builtin" => .command
  | "break" => .plain (leaveLoops false)
  | "continue" => .plain (leaveLoops true)
  | "exit" => .plain exit
  | "export" => .plain exportVariables
  | "readonly" => .plain protectVariables
  | "local" => .plain declareLocal
  | "declare" => .plain declareWithOptions
  | "typeset" => .plain declareWithOptions
  | "let" => .plain evaluate
  | "shopt" => .plain showOptions
  | "return" => .plain returnFrom
  | "set" => .plain setSwitches
  | "shift" => .plain shift
  | "times" => .plain times
  | "trap" => .plain trap
  | "unset" => .plain unset
  | "[" => .plain bracket
  | "test" => .plain test
  | "echo" => .plain echo
  | "printf" => .plain printf
  | "alias" => .plain setAliases
  | "unalias" => .plain unsetAliases
  | "cd" => .plain cd
  | "chdir" => .plain cd
  | "pwd" => .plain pwd
  | "umask" => .plain umask
  | "ulimit" => .plain limit
  | "false" => .plain fun _ => return { status := 1 }
  | "getopts" => .plain getOption
  | "hash" => .plain (hash (isSpecial? language))
  | "type" => .plain (type (isSpecial? language))
  | "kill" => .plain kill
  | "wait" => .wait
  | "jobs" => .plain listJobs
  | "fg" => .plain resume
  | "bg" => .plain resume
  | "read" => .plain read
  | _ => .plain fun _ => return {}

/-- The command of a name. -/
def find? (language : Language) (name : Bytes) : Option Builtin :=
  (isSpecial? language name).map fun isSpecial =>
    let text := Utf8.text name
    { isSpecial, work := workOf language text,
      assigns := ["alias", "declare", "export", "local", "readonly", "typeset"].contains text }

end Builtin

end Intercept.Shell
