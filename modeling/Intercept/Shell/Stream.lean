import Intercept.Files.Path

/-!
# Streams and open files

A channel of a process leads to an end of a stream, or to an open file. Bytes are written to a
stream at a time, and read from it in the order of these times.
-/

namespace Intercept.Shell

/-- What a channel of a process leads to: an end of a stream, or an open file. -/
inductive Channel where
  | reading (stream : Nat)
  | writing (stream : Nat)
  | file (index : Nat)
  deriving DecidableEq, Repr

/-- Bytes that were written together. -/
structure Chunk where
  bytes : Bytes
  time : Files.Moment := 0
  /-- The number of the job in which they were written, if it was one. -/
  job : Option Nat := none
  deriving Repr

/-- Bytes that were written and not yet read. -/
structure Stream where
  front : Bytes := []
  /-- What was written behind the front, latest first. -/
  added : List Chunk := []
  /-- How many chunks have been written. -/
  written : Nat := 0
  deriving Repr

namespace Stream

def bytes (s : Stream) : Bytes := s.front ++ (s.added.reverse.map (·.bytes)).flatten

/-- Chunks, latest first, with another one. -/
def insert (chunk : Chunk) : List Chunk → List Chunk
  | [] => [chunk]
  | latest :: earlier =>
    if chunk.time < latest.time then latest :: insert chunk earlier
    else chunk :: latest :: earlier

def append (s : Stream) (chunk : Chunk) : Stream :=
  { s with added := insert chunk s.added, written := s.written + 1 }

def drop (s : Stream) (count : Nat) : Stream :=
  { front := s.bytes.drop count, written := s.written }

/-- The stream without what a job has written behind a time. -/
def withoutLater (s : Stream) (job : Nat) (time : Files.Moment) : Stream :=
  { s with added := s.added.filter fun chunk => chunk.job ≠ some job || chunk.time ≤ time }

end Stream

/-- A file that channels lead to. They share the offset at which bytes are read and written. -/
structure OpenFile where
  place : Files.Place
  /-- The number of the file, by which it is found also at another place. -/
  number : Nat := 0
  /-- What it held when it was opened, which can be read also when the file is gone. -/
  contents : Bytes := []
  offset : Nat := 0
  reads : Bool := false
  writes : Bool := false
  /-- Whether bytes are written at the end, wherever that is. -/
  appends : Bool := false
  deriving Repr

end Intercept.Shell
