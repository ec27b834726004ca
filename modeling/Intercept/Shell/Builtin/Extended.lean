import Intercept.Shell.Arithmetic
import Intercept.Shell.Builtin.Options

/-!
# Commands of the extended language

Those that the standard language has no like of.
-/

namespace Intercept.Shell.Builtin

/-- Computes sums, the last of which tells whether that succeeds. -/
def evaluate (words : List Bytes) : Action Answer := do
  if words.isEmpty then Action.fail "expression expected"
  let values ← words.mapM evaluateSum
  return { status := if values.getLast? = some 0 then 1 else 0 }

/-- A word that assigns to a variable, with the value of a sum in the place of the sum. -/
def withValue (word : Bytes) : Action Bytes := do
  match Bytes.breakAt Bytes.equalsSign word with
  | (name, some text) => return name ++ Bytes.equalsSign :: integerText (← evaluateSum text)
  | (_, none) => return word

/-- Declares variables, which are local in a function unless that is not wanted. -/
def declareWithOptions (words : List Bytes) : Action Answer := do
  let read ← readOptions "aAfFgiIlnrtuxp" words
  let declaration : Declaration := { exported := read.has 'x', readOnly := read.has 'r' }
  let isLocal := 0 < (← get).depth && !read.has 'g'
  for word in read.operands do
    let word ← if read.has 'i' then withValue word else pure word
    if isLocal then makeLocal declaration word else declare declaration word
  return {}

/-- Turns options of the shell, or shows that they are off. Nothing follows from them. -/
def showOptions (words : List Bytes) : Action Answer := do
  let read ← readOptions "opqsu" words
  if read.has 's' || read.has 'u' then return {}
  let row (name : Bytes) : Bytes :=
    name ++ List.replicate (15 - name.length) Bytes.space ++ Bytes.ofString "\toff\n"
  return {
    output := if read.has 'q' then [] else read.operands.flatMap row
    status := if read.operands.isEmpty then 0 else 1 }

end Intercept.Shell.Builtin
