import Intercept.Shell.Language
import Intercept.Shell.Names

/-!
# Signals

Signals have numbers and names. Most of them end the process that they are sent to.
-/

namespace Intercept.Shell

/-- The greatest number of a signal. -/
def lastSignal : Nat := 64

def terminateSignal : Nat := 15

/-- The names of the first signals, in the order of their numbers from one on. -/
def namedSignals : List String :=
  ["HUP", "INT", "QUIT", "ILL", "TRAP", "ABRT", "BUS", "FPE", "KILL", "USR1", "SEGV", "USR2",
    "PIPE", "ALRM", "TERM", "16", "CHLD", "CONT", "STOP", "TSTP", "TTIN", "TTOU", "URG", "XCPU",
    "XFSZ", "VTALRM", "PROF", "WINCH", "IO", "PWR", "SYS"]

/-- The name of a signal; those without a name of their own are named by their numbers, or by their
distance from the first or the last of those for any purpose. The number zero is that of the end. -/
def signalName (signal : Nat) : String :=
  if signal = 0 then "EXIT"
  else if signal < 34 then (namedSignals[signal - 1]?).getD (toString signal)
  else if signal = 34 then "RTMIN"
  else if signal < 50 then s!"RTMIN+{signal - 34}"
  else if signal = lastSignal then "RTMAX"
  else s!"RTMAX-{lastSignal - signal}"

/-- The bytes with capital letters for small ones. -/
def capitals (bytes : Bytes) : Bytes :=
  bytes.map fun b => if 0x61 ≤ b && b ≤ 0x7A then b - 0x20 else b

/-- The bytes with small letters for capital ones. -/
def smallLetters (bytes : Bytes) : Bytes :=
  bytes.map fun b => if 0x41 ≤ b && b ≤ 0x5A then b + 0x20 else b

/-- The signal that is given by its number or its name. -/
def signal? (text : Bytes) : Option Nat :=
  match number? text with
  | some n => if n ≤ lastSignal then some n else none
  | none => (List.range (lastSignal + 1)).find? fun signal =>
      Bytes.ofString (signalName signal) = capitals text

/-- The signal that is given by its number or its name; in the extended language a name may stand
behind the letters that all of them have in common. -/
def signalIn? (language : Language) (text : Bytes) : Option Nat :=
  match language, capitals text with
  | .extended, 0x53 :: 0x49 :: 0x47 :: name => signal? name
  | _, _ => signal? text

/-- The signals that do not end a process: child, continue, stops, urgent and window change. -/
def harmlessSignals : List Nat := [17, 18, 19, 20, 21, 22, 23, 28]

/-- What is said of a process that a signal has ended. -/
def signalDescriptions : List String :=
  ["Hangup", "Interrupt", "Quit", "Illegal instruction", "Trace/breakpoint trap", "Aborted",
    "Bus error", "Floating point exception", "Killed", "User defined signal 1",
    "Segmentation fault", "User defined signal 2", "Broken pipe", "Alarm clock", "Terminated",
    "Stack fault", "Child exited", "Continued", "Stopped (signal)", "Stopped",
    "Stopped (tty input)", "Stopped (tty output)", "Urgent I/O condition",
    "CPU time limit exceeded", "File size limit exceeded", "Virtual timer expired",
    "Profiling timer expired", "Window changed", "I/O possible", "Power failure",
    "Bad system call"]

/-- What is said of a process that a signal has ended. -/
def signalDescription (signal : Nat) : String :=
  match signalDescriptions[signal - 1]? with
  | some text => text
  | none =>
    if 34 ≤ signal then s!"Real-time signal {signal - 34}" else s!"Unknown signal {signal}"

end Intercept.Shell
