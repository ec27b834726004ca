import Intercept.Fault
import Intercept.Text.Utf8

/-!
# Events

Everything that the trap and the inspector tell about their work is an event: a level, the part of
the program that it comes from, a message and named fields. What an event is about is kept in
bytes; the fields show it as text.
-/

namespace Intercept

/-- How much an event matters; the first is the gravest. -/
inductive Level where
  | error
  | warn
  | info
  | debug
  | trace
  deriving DecidableEq, Repr

namespace Level

def all : List Level := [error, warn, info, debug, trace]

def name : Level → String
  | error => "error"
  | warn => "warn"
  | info => "info"
  | debug => "debug"
  | trace => "trace"

/-- The level in capitals. -/
def label : Level → String
  | error => "ERROR"
  | warn => "WARN"
  | info => "INFO"
  | debug => "DEBUG"
  | trace => "TRACE"

/-- The number of graver levels. -/
def rank : Level → Nat
  | error => 0
  | warn => 1
  | info => 2
  | debug => 3
  | trace => 4

/-- The level of a name. Case counts. -/
def ofName? (name : String) : Option Level := all.find? (·.name = name)

theorem ofName?_name (level : Level) : ofName? level.name = some level := by
  cases level <;> decide

end Level

/-- The value of a field: a text, a text that is shown in quotes, or a number. -/
inductive FieldValue where
  | text (s : String)
  | quotedText (s : String)
  | number (n : Int)
  deriving DecidableEq, Repr

inductive Event where
  | configured (host : String) (results : Bytes)
  | requoted (token : Bytes) (written : Bytes)
  | foundSource (source : Bytes)
  | notLogged (fault : Fault)
  | delegating (command : Bytes)
  | finished (code : Int)
  | notExecuted (fault : Fault)
  | readingLog (path : Bytes)
  deriving DecidableEq, Repr

namespace Event

def level : Event → Level
  | configured .. => .debug
  | requoted .. => .debug
  | foundSource _ => .debug
  | notLogged _ => .warn
  | delegating _ => .info
  | finished _ => .debug
  | notExecuted _ => .error
  | readingLog _ => .debug

/-- The part of the program that the event comes from, as filters name it. -/
def target : Event → String
  | configured .. => "cctrap_core"
  | requoted .. => "cctrap_core::rewrite"
  | foundSource _ => "cctrap_core::rewrite"
  | notLogged _ => "cctrap_core::trap"
  | delegating _ => "cctrap_core::exec"
  | finished _ => "cctrap_core::exec"
  | notExecuted _ => "cctrap_core::trap"
  | readingLog _ => "cctrap::commands"

def message : Event → String
  | configured .. => "configured trap"
  | requoted .. => "re-quoted compiler define"
  | foundSource _ => "found source file"
  | notLogged fault => s!"could not log invocation: {fault.message}"
  | delegating _ => "delegating to host compiler"
  | finished _ => "host compiler finished"
  | notExecuted fault => fault.message
  | readingLog _ => "reading results log"

/-- The named fields, in the order in which they are shown. -/
def fields : Event → List (String × FieldValue)
  | configured host results =>
    [("host_compiler", .quotedText host), ("results", .text (Utf8.text results))]
  | requoted token written =>
    [("token", .text (Utf8.text token)), ("requoted", .text (Utf8.text written))]
  | foundSource source => [("source", .text (Utf8.text source))]
  | notLogged _ => []
  | delegating command => [("command", .text (Utf8.text command))]
  | finished code => [("code", .number code)]
  | notExecuted _ => []
  | readingLog path => [("path", .text (Utf8.text path))]

/-- The names that a filter can ask for: those of the fields, and the message's. -/
def fieldNames (event : Event) : List String := "message" :: event.fields.map Prod.fst

end Event

end Intercept
