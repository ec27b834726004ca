import Intercept.Bytes
import Intercept.Errno

/-!
# What can go wrong

A fault is a cause, never a text: a file that cannot be used, a command interpreter that cannot be
started, or a log that cannot be read. `Fault.message` is the one place that words it.
-/

namespace Intercept

/-- Why the host system could not do what it was asked. -/
inductive Cause where
  | numbered (errno : Errno)
  | described (text : String)
  | nulInPath
  | nulInArgument
  deriving DecidableEq, Repr

namespace Cause

def message : Cause → String
  | numbered errno => errno.message
  | described text => text
  | nulInPath => "file name contained an unexpected NUL byte"
  | nulInArgument => "nul byte found in provided data"

end Cause

/-- The line, counted from one, at which a log stops making sense, and what is wrong with it. -/
structure Malformed where
  line : Nat
  detail : String
  deriving DecidableEq, Repr

inductive Fault where
  | file (cause : Cause)
  | spawn (program : String) (cause : Cause)
  | malformed (m : Malformed)
  deriving DecidableEq, Repr

namespace Fault

def message : Fault → String
  | file cause => s!"IO error: {cause.message}"
  | spawn program cause => s!"Failed to spawn '{program}': {cause.message}"
  | malformed m => s!"Results log error at line {m.line}: {m.detail}"

/-- What lies behind the fault, if it is not the fault itself. -/
def cause? : Fault → Option Cause
  | file cause => some cause
  | spawn _ cause => some cause
  | malformed _ => none

/-- The message of the fault and that of what lies behind it, outermost first. -/
def chain (fault : Fault) : List String :=
  fault.message :: (fault.cause?.map Cause.message).toList

end Fault

end Intercept
