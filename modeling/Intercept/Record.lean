import Intercept.Json
import Intercept.Text.Utf8

/-!
# Records

A record notes one forwarded invocation: the source file that it compiles, if it compiles one, and
the command line that was run. It is written as the source's name or the word `None`, the command
line and an empty line. Both fields are kept byte for byte; only the forms for a reader's eye, the
displayed text and the JSON view, replace what is no text.
-/

namespace Intercept

structure Record where
  source : Option Bytes
  command : Bytes
  deriving DecidableEq, Repr

namespace Record

/-- The word that stands in place of a source. -/
def absent : Bytes := Bytes.ofChars ['N', 'o', 'n', 'e']

/-- The first line of the record. -/
def sourceLine (r : Record) : Bytes := r.source.getD absent

/-- The record as it is written to a log. -/
def toBytes (r : Record) : Bytes :=
  r.sourceLine ++ Bytes.newline :: r.command ++ [Bytes.newline, Bytes.newline]

/-- Several records, one after the other, as a log holds them. -/
def allToBytes (rs : List Record) : Bytes := rs.flatMap toBytes

/-- The written record as a reader sees it. -/
def display (r : Record) : String := Utf8.text r.toBytes

/-- The record as an object of two fields; an absent source is null. -/
def toJson (r : Record) : Json :=
  .obj [("source_file", r.source.elim .null fun source => .str (Utf8.text source)),
    ("command", .str (Utf8.text r.command))]

/-- The sources that the records name, in order. -/
def sources (rs : List Record) : List Bytes := rs.filterMap source

end Record

end Intercept
