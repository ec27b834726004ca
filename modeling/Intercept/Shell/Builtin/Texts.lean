import Intercept.Shell.Builtin.Options
import Intercept.Shell.Condition
import Intercept.Shell.Format
import Intercept.Shell.Variables

/-!
# Commands that write and compare texts
-/

namespace Intercept.Shell.Builtin

def echo (words : List Bytes) : Action Answer := do
  match (← get).language with
  | .standard => return { output := Format.echo words }
  | .extended => return { output := Format.echoWithOptions (Format.extendedEscape .echo) words }

/-- Writes by a format. In the extended language what is written can become the value of a
variable. -/
def printf (words : List Bytes) : Action Answer := do
  match (← get).language with
  | .standard =>
    match (← readOptions "" words).operands with
    | [] => Action.fail "usage: printf format [arg ...]"
    | format :: arguments => Format.printf .shell format arguments
  | .extended =>
    let read ← readOptions "v:" words
    match read.operands with
    | [] =>
      Action.tell (Bytes.ofString "printf: usage: printf [-v var] format [arguments]")
      return { status := 2 }
    | format :: arguments =>
      let answer ← Format.printf .extended format arguments
      match read.options.getLast? with
      | some (_, name) =>
        setNamed name answer.output
        return { status := answer.status }
      | none => return answer

/-- Whether a condition holds. A failure has a status of its own. -/
def decideWords (words : List Bytes) : Action Answer := do
  match ← (Condition.holds words).attempt with
  | some holds => return { status := if holds then 0 else 1 }
  | none =>
    Action.setStatus 2
    throw .failed

/-- The words of a condition, of which the extended language writes one sign in another way too. -/
def test (words : List Bytes) : Action Answer := do
  let equals := Bytes.ofString "=="
  let isExtended := (← get).language.isExtended
  decideWords (if isExtended then words.map fun word => if word = equals then [0x3D] else word
    else words)

/-- The condition between brackets. The word that ends it may go on behind its bracket in the
standard language. -/
def bracket (words : List Bytes) : Action Answer := do
  let isExtended := (← get).language.isExtended
  let isClosed := match words.getLast? with
    | some (0x5D :: rest) => rest.isEmpty || !isExtended
    | _ => false
  if !isClosed then Action.failUse (Bytes.ofString "missing ]") (Bytes.ofString "missing `]'")
  test words.dropLast

end Intercept.Shell.Builtin
