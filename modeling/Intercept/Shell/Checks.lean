import Intercept.Shell.Condition
import Intercept.Shell.Expansion
import Intercept.Shell.Regular.Match
import Intercept.Shell.Regular.Reading

/-!
# Conditions between double brackets

Nothing in their words is split. A text is compared with a pattern, or searched for an expression;
what is compared as a number may be a sum.
-/

namespace Intercept.Shell

/-- The text of an expression in which what was quoted stands for itself. -/
def expressionText (marks : List Mark) : Bytes :=
  marks.flatMap fun m =>
    if m.quoted && !isNameByte m.byte then [0x5C, m.byte] else [m.byte]

/-- Whether an expression matches a stretch of a text. -/
def isFound (expression text : Bytes) : Action Bool := do
  match Regular.read { extended := true } expression with
  | .ok regular => return ((Subject.ofBytes text).search? regular).isSome
  | .error _ => throw .failed

/-- Whether two texts are in the relation of an operator that compares them, or numbers, or
files. -/
def holdsBetween (operator : String) (first second : Bytes) : Action Bool := do
  let numbers (holds : Int → Int → Bool) : Action Bool := do
    return holds (← evaluateSum first) (← evaluateSum second)
  match operator with
  | "-eq" => numbers fun m n => m = n
  | "-ne" => numbers fun m n => m ≠ n
  | "-lt" => numbers fun m n => m < n
  | "-le" => numbers fun m n => m ≤ n
  | "-gt" => numbers fun m n => n < m
  | "-ge" => numbers fun m n => n ≤ m
  | operator => Condition.pair first operator second

/-- Whether a condition between double brackets holds. -/
def holdsCheck (output : Command → Action Bytes) : Check → Action Bool
  | .single letter word => do
    let text ← expandText output {} word
    let p ← get
    match letter with
    | 'a' => Condition.single 'e' text
    | 'v' => return (p.setting? text).isSome
    | 'o' => return (switchOfName? p.language text).any p.switches.isOn
    | letter => Condition.single letter text
  | .pair first operator second => do
    let text ← expandText output {} first
    match Utf8.text operator with
    | "=" | "==" => return (← expandPattern output second).matches text
    | "!=" => return !(← expandPattern output second).matches text
    | "=~" => isFound (expressionText (marksOf (← expandParts output {} true second))) text
    | operator => holdsBetween operator text (← expandText output {} second)
  | .negation check => return !(← holdsCheck output check)
  | .both first second => do
    if ← holdsCheck output first then holdsCheck output second else return false
  | .either first second => do
    if ← holdsCheck output first then return true else holdsCheck output second

/-- Whether a sum is not zero. Where there is none, a default counts. -/
def holdsSum (output : Command → Action Bytes) (default : Bool) (text : Word) : Action Bool := do
  let text ← expandText output { quoted := true } text
  if text.all isSpace then return default
  return (← evaluateSum text) ≠ 0

end Intercept.Shell
