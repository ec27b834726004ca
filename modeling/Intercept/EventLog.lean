import Intercept.Event
import Intercept.EventLog.Directive
import Intercept.Text.Quoted

/-!
# Events on the terminal

Which events are shown is said by a list of directives. Of those that are about an event the most
specific one decides. An event that is shown takes one line: its level, its message and its fields.
-/

namespace Intercept.EventLog

abbrev Filter := List Directive

/-- The environment variable that holds the text of a filter. -/
def filterVariable : String := "CCTRAP_LOG"

/-- The code of a program that cannot divide a character of its filter. -/
def failureCode : Nat := 101

/-- A filter from its text: directives between commas. Without any, nothing is shown. -/
def Filter.ofText (text : String) : Except Directive.Flaw Filter :=
  ((text.splitOn ",").filter (· ≠ "")).mapM Directive.ofText

/-- The filter that shows everything up to a level. -/
def Filter.upTo (level : Level) : Filter := [.plain (some level)]

/-- The directive that decides on an event: of those about it the one that yields to no other, and
of equals the last. -/
def Filter.deciding (filter : Filter) (event : Event) : Option Directive :=
  (filter.filter (·.isAbout event)).foldl (fun best d =>
    match best with
    | none => some d
    | some b => if b.yieldsTo d then some d else some b) none

/-- Whether an event is shown. -/
def Filter.shows (filter : Filter) (event : Event) : Bool :=
  match (filter.deciding event).bind (·.threshold) with
  | none => false
  | some most => event.level.rank ≤ most.rank

/-- A field in a line. -/
def fieldText : FieldValue → String
  | .text s => s
  | .quotedText s => Quoted.text s
  | .number n => toString n

/-- The level in five columns. -/
def column (level : Level) : String :=
  String.ofList (List.replicate (5 - level.label.length) ' ') ++ level.label

/-- The line that shows an event. -/
def line (event : Event) : String :=
  let fields := event.fields.map fun (name, value) => s!" {name}={fieldText value}"
  s!"{column event.level} {event.message}{String.join fields}\n"

/-- The lines of the events that are shown. -/
def lines (filter : Filter) (events : List Event) : String :=
  String.join ((events.filter filter.shows).map line)

end Intercept.EventLog
