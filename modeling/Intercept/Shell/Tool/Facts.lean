import Intercept.Shell.Format
import Intercept.Shell.Tool.Dates
import Intercept.Shell.Tool.Entries
import Intercept.Shell.Tool.Links

/-!
# What is known of a node

The tool that writes what is known of the nodes at paths, as a format says or in some lines.
-/

namespace Intercept.Shell.Tool

/-- Something that is known of a node. -/
inductive Fact where
  | text (bytes : Bytes)
  /-- A number in the base that a letter stands for. -/
  | number (letter : Char) (n : Nat)
  | time (moment : Files.Moment)

namespace Listed

/-- What kind of node it is, in words. -/
def kindText (listed : Listed) : String :=
  match listed.node with
  | .directory => "directory"
  | .file [] => "regular empty file"
  | .file _ | .tool _ => "regular file"
  | .link _ => "symbolic link"
  | .device _ => "character special file"
  | .stream _ => "fifo"

/-- The rights and the kind of a node in one number. -/
def wholeMode (listed : Listed) : Nat :=
  listed.attributes.mode ||| match listed.node with
    | .directory => 0o040000
    | .link _ => 0o120000
    | .device _ => 0o020000
    | .stream _ => 0o010000
    | _ => 0o100000

/-- The number of units of 512 bytes that a node takes. -/
def units (listed : Listed) : Nat :=
  match listed.node with
  | .directory => 8
  | .file _ | .tool _ => (listed.size + 4095) / 4096 * 8
  | _ => 0

/-- A time with the day, as it is shown. -/
def wholeTime (time : Files.Moment) : Bytes :=
  Bytes.ofString (dateText time 100 "%F %T.%N %z".toList)

/-- The letters for the kind and the rights of a node. -/
def modeLetters (listed : Listed) : String :=
  toString (kindLetter listed.node) ++ rightsLetters listed.attributes.mode

/-- What a letter stands for. -/
def fact? (listed : Listed) (tree : Files.Tree) (letter : Char) : Option Fact :=
  let time := listed.attributes.time
  match letter with
  | 'a' => some (.number 'o' listed.attributes.mode)
  | 'A' => some (.text (Bytes.ofString listed.modeLetters))
  | 'b' => some (.number 'u' listed.units)
  | 'B' => some (.number 'u' 512)
  | 'd' => some (.number 'u' 1)
  | 'D' => some (.number 'x' 1)
  | 'f' => some (.number 'x' listed.wholeMode)
  | 'F' => some (.text (Bytes.ofString listed.kindText))
  | 'g' | 'u' => some (.number 'u' 0)
  | 'G' | 'U' => some (.text (Bytes.ofString "root"))
  | 'h' => some (.number 'u' (listed.holders tree))
  | 'i' => some (.number 'u' listed.attributes.number)
  | 'm' => some (.text [Bytes.slash])
  | 'n' => some (.text listed.name)
  | 'N' =>
    let target : Bytes := match listed.node with
      | .link target => Bytes.ofString " -> " ++ shellQuoted target
      | _ => []
    some (.text (shellQuoted listed.name ++ target))
  | 'o' => some (.number 'u' 4096)
  | 's' => some (.number 'u' listed.size)
  | 't' | 'T' => some (.number 'x' 0)
  | 'w' | 'x' | 'y' | 'z' => some (.text (wholeTime time))
  | 'W' | 'X' | 'Y' | 'Z' => some (.time time)
  | _ => none

end Listed

/-- A fact as a directive writes it. -/
def Fact.shown (fact : Fact) (d : Format.Directive) : Bytes :=
  match fact with
  | .text bytes => d.pad false [] (match d.precision with
      | some count => bytes.take count
      | none => bytes)
  | .number letter n => d.unsigned letter n
  | .time moment =>
    let seconds := moment / (Files.secondLength : Int)
    let digits := toString (moment % (Files.secondLength : Int))
    let nine := String.ofList (List.replicate (9 - digits.length) '0') ++ digits
    let count := d.precision.getD 0
    let behind := (nine.take count).toString ++ String.ofList (List.replicate (count - 9) '0')
    let text := toString seconds ++ if count = 0 then "" else "." ++ behind
    ({ d with precision := none }).pad true [] (Bytes.ofString text)

/-- The directive behind a percent sign, and what follows it. -/
def factDirective (text : Bytes) : Format.Directive × Bytes :=
  let flags := text.takeWhile fun b => (Bytes.ofString "#'-+0 ").contains b
  let rest := text.drop flags.length
  let (width, rest) := rest.span isDigit
  match rest with
  | 0x2E :: rest =>
    let (precision, rest) := rest.span isDigit
    ({ flags, width := decimal width, precision := some (decimal precision) }, rest)
  | rest => ({ flags, width := decimal width }, rest)

/-- What a format gives for a node. Backslashes have a meaning where it `escapes`. The first
argument bounds the number of pieces. -/
def factsText (escapes : Bool) (tree : Files.Tree) (listed : Listed) : Nat → Bytes → Bytes
  | 0, _ => []
  | _ + 1, [] => []
  | fuel + 1, 0x25 :: rest =>
    let (directive, behind) := factDirective rest
    match behind with
    | [] => [0x25]
    | letter :: after =>
      let own : Bytes := match letter, listed.fact? tree (Bytes.asChar letter) with
        | 0x25, _ => [0x25]
        | _, some fact => fact.shown directive
        | _, none => [0x3F]
      own ++ factsText escapes tree listed fuel after
  | fuel + 1, b :: rest =>
    if b = 0x5C && escapes then
      match Format.toolEscape false rest with
      | (.text bytes, rest) => bytes ++ factsText escapes tree listed fuel rest
      | _ => []
    else b :: factsText escapes tree listed fuel rest

/-- The format for those who give none. -/
def usualFacts : String :=
  "  File: %n\n  Size: %-10s\tBlocks: %-10b IO Block: %-6o %F\n" ++
  "Device: %d\tInode: %-11i Links: %h\n" ++
  "Access: (%04a/%10.10A)  Uid: (%5u/%8U)   Gid: (%5g/%8G)\n" ++
  "Access: %x\nModify: %y\nChange: %z\n Birth: %w\n"

/-- The format in one line. -/
def terseFacts : String := "%n %s %b %f %u %g %d %i %h %t %T %X %Y %Z %W %o\n"

/-- Writes what is known of nodes. -/
def stat (use : Use) : Action Nat := do
  if ← missesOperand use then return 1
  let (escapes, format, behind) : Bool × Bytes × Bytes :=
    match use.argument? 'π', use.argument? 'c' with
    | some format, _ => (true, format, [])
    | none, some format => (false, format, [Bytes.newline])
    | none, none => (false, Bytes.ofString (if use.has 't' then terseFacts else usualFacts), [])
  let mut status := 0
  for path in use.operands do
    let p ← get
    let found := if use.has 'L' then
        match p.tree.find p.directory path with
        | .ok (.node place node) => .ok (place, node)
        | .ok (.free _) => .error (.numbered .noSuchFile)
        | .error cause => .error cause
      else nodeAt p.tree p.directory path
    match found with
    | .ok (place, node) =>
      let listed := Listed.of p.tree path place node
      let text := factsText escapes p.tree listed (format.length + 1) format ++ behind
      if !(← emit text) then status := 1
    | .error cause =>
      explain "cannot statx " (shellQuoted path) (reason cause)
      status := 1
  return status

def statOptions : Use.Known :=
  { letters := "Lftc:π:"
    names := [("dereference", 'L'), ("format", 'c'), ("printf", 'π'), ("terse", 't')] }

end Intercept.Shell.Tool
