import Intercept.Fault
import Intercept.Record

/-!
# Reading a log

A log is cut at its blank lines into chunks, and each chunk that is not empty is read as a record:
its first line names the source, its second line is the command, and further lines are left out. A
chunk of a single line has no command, and the log is refused with the line on which it stands.
-/

namespace Intercept.Log

/-- A byte in front of the first chunk. -/
def consByte (b : UInt8) : List Bytes → List Bytes
  | [] => [[b]]
  | chunk :: chunks => (b :: chunk) :: chunks

/-- The parts between blank lines, the empty ones included. The cut is made at the leftmost pair
of newlines, and the search goes on behind it. -/
def chunks : Bytes → List Bytes
  | [] => [[]]
  | [b] => [[b]]
  | b :: c :: rest =>
    if b = Bytes.newline ∧ c = Bytes.newline then [] :: chunks rest
    else consByte b (chunks (c :: rest))

/-- The number of newlines. -/
def newlines (bytes : Bytes) : Nat := bytes.count Bytes.newline

/-- The record that a chunk holds, if it has a command line. -/
def record? (chunk : Bytes) : Option Record :=
  match Bytes.splitAt Bytes.newline chunk with
  | source :: command :: _ =>
    some { source := if source = Record.absent then none else some source, command }
  | _ => none

/-- What is wrong with a chunk that has no command line. -/
def noCommand (line : Nat) (chunk : Bytes) : Malformed :=
  { line, detail := s!"record for '{Utf8.text chunk}' has no command line" }

/-- The records of chunks of which the first begins on the given line. -/
def readFrom (line : Nat) : List Bytes → Except Malformed (List Record)
  | [] => .ok []
  | [] :: rest => readFrom (line + 2) rest
  | chunk :: rest =>
    match record? chunk with
    | none => .error (noCommand line chunk)
    | some r => (r :: ·) <$> readFrom (line + newlines chunk + 2) rest

/-- The records of a log, or the first chunk that is none. -/
def read (bytes : Bytes) : Except Malformed (List Record) := readFrom 1 (chunks bytes)

end Intercept.Log
