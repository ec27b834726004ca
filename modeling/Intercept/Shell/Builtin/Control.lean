import Intercept.Shell.Builtin.Options

/-!
# Commands that change the course of commands
-/

namespace Intercept.Shell.Builtin

/-- The status that a word gives. In the extended language any integer does, and another word ends
the shell too. -/
def statusOf (word : Bytes) : Action Nat := do
  match (← get).language with
  | .standard => Action.count word
  | .extended =>
    match integer? word with
    | some n => return (n % 256).toNat
    | none =>
      Action.complain (Action.about word "numeric argument required")
      return 2

/-- Ends the shell. -/
def exit (words : List Bytes) : Action Answer := do
  if 1 < words.length && (← get).language.isExtended then Action.fail "too many arguments"
  if let word :: _ := words then
    let n ← statusOf word
    modify fun p => { p with savedStatus := some n }
  throw (.ended true)

/-- Leaves a function, or a file of commands. -/
def returnFrom (words : List Bytes) : Action Answer := do
  let p ← get
  if p.language.isExtended && p.depth = 0 && p.sources = 0 then
    Action.failUse [] (Bytes.ofString "can only `return' from a function or sourced script")
  match words with
  | [] =>
    modify fun p => { p with skip := .function false }
    return { status := (← get).status }
  | word :: _ =>
    let status ← statusOf word
    modify fun p => { p with skip := .function true }
    return { status }

/-- Leaves loops, the outermost of which goes on if `resumes`. -/
def leaveLoops (resumes : Bool) (words : List Bytes) : Action Answer := do
  let p ← get
  if p.language.isExtended && p.loops = 0 then
    Action.complain (Bytes.ofString "only meaningful in a `for', `while', or `until' loop")
    return {}
  let n ← match words with
    | [] => pure 1
    | word :: _ => do
      let n ← Action.count word
      if n = 0 then Action.failNumber word
      pure n
  let p ← get
  let count := min n p.loops
  if 0 < count then set { p with skip := .loops count resumes }
  return {}

/-- The time that the shell and its children have taken, of which nothing is measured. -/
def times (_ : List Bytes) : Action Answer :=
  return { output := Bytes.ofString "0m0.000000s 0m0.000000s\n0m0.000000s 0m0.000000s\n" }

/-- The greatest size of a file, which is not limited and stays so. -/
def limit (words : List Bytes) : Action Answer := do
  let read ← readOptions "HSatfdscmlpnvwr" words
  match read.operands with
  | [] => return { output := Bytes.ofString "unlimited\n" }
  | word :: others =>
    if !others.isEmpty || read.has 'a' then Action.fail "too many arguments"
    if word ≠ Bytes.ofString "unlimited" && !word.all isDigit then Action.fail "bad number"
    return {}

end Intercept.Shell.Builtin
