import Intercept.Log
import Intercept.Text.Quoted

/-!
# Expectations on a log

Checks for tests of a build: that a log holds a number of records, or that it holds one record with
a given source.
-/

namespace Intercept.Expectation

/-- Why a log is not as expected. -/
inductive Unmet where
  | unreadable (m : Malformed)
  | count (expected found : Nat)
  | source (expected : Option String) (found : Option Bytes)
  deriving DecidableEq, Repr

namespace Unmet

/-- The text of a value that may be missing, given the text of one that is not. -/
def optional (shown : Option String) : String :=
  match shown with
  | none => "None"
  | some s => s!"Some({s})"

def message : Unmet → String
  | unreadable m => s!"Results log did not parse: {(Fault.malformed m).message}"
  | count expected found => s!"Expected {expected} records, got {found}"
  | source expected found =>
    let wanted := optional (expected.map Quoted.text)
    let seen := optional (found.map Quoted.fileName)
    s!"Expected source {wanted}, got {seen}"

end Unmet

/-- The records of a log that holds as many as expected. -/
def records (log : Bytes) (expected : Nat) : Except Unmet (List Record) :=
  match Log.read log with
  | .error m => .error (.unreadable m)
  | .ok rs => if rs.length = expected then .ok rs else .error (.count expected rs.length)

/-- The only record of a log, whose source is as expected. -/
def onlyRecord (log : Bytes) (expected : Option String) : Except Unmet Record :=
  match records log 1 with
  | .error unmet => .error unmet
  | .ok [] => .error (.count 1 0)
  | .ok (r :: _) =>
    if r.source = expected.map Bytes.ofString then .ok r else .error (.source expected r.source)

end Intercept.Expectation
