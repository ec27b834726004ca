import Intercept.Shell.Condition
import Intercept.Shell.Format
import Intercept.Shell.Listing
import Intercept.Shell.Tool.Inputs

/-!
# Tools that write texts

They pass on what files hold, or what they are given.
-/

namespace Intercept.Shell.Tool

/-- The status of a tool that could write all it had to. -/
def statusOf (written : Bool) : Nat := if written then 0 else 1

def echo (words : List Bytes) : Action Nat :=
  return statusOf (← emit (Format.echoWithOptions Format.echoEscape words))

def printf (words : List Bytes) : Action Nat := do
  match if words.head? = some [0x2D, 0x2D] then words.drop 1 else words with
  | [] =>
    refuseUse (Bytes.ofString "missing operand")
    return 1
  | format :: arguments =>
    let answer ← Format.printf .tool format arguments
    return if ← emit answer.output then answer.status else 1

/-- Whether a name leads to the file to which the standard output goes, at a place behind that from
which it is read, or `anywhere`. -/
def isOutput (p : Process) (name : Bytes) (anywhere : Bool := false) : Bool :=
  let source :=
    if name = inputSign then (p.fileAt? 0).map fun (_, file) => (file.number, file.offset)
    else (Condition.attributesOf? p name).map fun attributes => (attributes.number, 0)
  match p.fileAt? 1, source with
  | some (_, file), some (number, offset) =>
    match p.nodeOf? file with
    | some (.file _) => number = file.number && (anywhere || offset < p.endOffset file)
    | _ => false
  | _, _ => false

/-- Passes on the contents of the named files, or what can be read where none is named. -/
def cat (use : Use) : Action Nat := do
  let mut status := 0
  let listing := (Listing.ofLetters? (use.options.map (·.1.toUInt8))).getD {}
  let mut held : Bytes := []
  for name in inputs use do
    if isOutput (← get) name then
      explain "" (nameText name) "input file is output file"
      status := 1
      continue
    match contentsOfName (← get) name with
    | .error cause =>
      explain "" (nameText name) (reason cause)
      status := 1
    | .ok text =>
      takeFrom name text.length
      if listing = {} then
        if !(← emit text) then return 1
      else held := held ++ text
  if !(← emit (listing.apply held)) then return 1
  closeInput use "closing standard input" status

def catOptions : Use.Known :=
  { letters := "nbsETvetAu"
    names := [("number", 'n'), ("number-nonblank", 'b'), ("squeeze-blank", 's'),
      ("show-ends", 'E'), ("show-tabs", 'T'), ("show-nonprinting", 'v'), ("show-all", 'A')] }

/-- Passes on what can be read, and writes it to files too. -/
def tee (use : Use) : Action Nat := do
  let mut status := 0
  let text := (contentsOfName (← get) inputSign).toOption.getD []
  takeFrom inputSign text.length
  for name in use.operands do
    let p ← get
    let changed :=
      if use.has 'a' then p.tree.append p.directory name text
      else p.tree.overwrite p.directory name text (p.rights 0o666)
    match p.tree.findToWrite p.directory name, changed with
    | .ok (.node _ (.stream channel)), _ =>
      let _ ← Action.writeTo channel text
    | _, .ok tree => set (p.setTree tree)
    | _, .error cause =>
      explain "" (nameText name) (reason cause)
      status := 1
  return if ← emit text then status else 1

def teeOptions : Use.Known :=
  { letters := "aip", names := [("append", 'a'), ("ignore-interrupts", 'i')] }

/-- The signal for a process whose bytes nobody reads. -/
def unreadSignal : Nat := 13

/-- How many bytes are written where there is to be no end. -/
def manyBytes : Nat := 262144

/-- Writes a line over and over. -/
def yes (use : Use) : Action Nat := do
  let words := if use.operands.isEmpty then [[0x79]] else use.operands
  let line := Bytes.joinWith Bytes.space words ++ [Bytes.newline]
  let _ ← emit (List.replicate (manyBytes / line.length + 1) line).flatten
  match (← get).channels.lookup 1 with
  | some (.writing index) => throw (if index < 3 then .exhausted else .killed unreadSignal)
  | _ => throw .exhausted

/-- The last name of a path, without an ending. -/
def lastName (ending path : Bytes) : Bytes :=
  let trimmed := (path.reverse.dropWhile (· = Bytes.slash)).reverse
  let name := (trimmed.reverse.takeWhile (· ≠ Bytes.slash)).reverse
  let whole := if name.isEmpty && !path.isEmpty then [Bytes.slash] else name
  if ending.isSuffixOf whole && ending.length < whole.length then
    whole.take (whole.length - ending.length)
  else whole

/-- Passes on the last names of paths: of one path, of which the ending may be given behind it, or
of several where that is asked for. -/
def basename (use : Use) : Action Nat := do
  let takesAll := use.hasAny "as"
  match use.operands, takesAll with
  | [], _ =>
    refuseUse (Bytes.ofString "missing operand")
    return 1
  | _ :: _ :: extra :: _, false =>
    refuseUse (Bytes.ofString "extra operand " ++ quotedText extra)
    return 1
  | path :: rest, false =>
    return statusOf (← emit (lastName (rest.headD []) path ++ [use.lineEnd]))
  | paths, true =>
    let ending := (use.argument? 's').getD []
    return statusOf (← emit (paths.flatMap fun path => lastName ending path ++ [use.lineEnd]))

/-- A path without its last name. -/
def dirname (use : Use) : Action Nat := do
  if use.operands.isEmpty then
    refuseUse (Bytes.ofString "missing operand")
    return 1
  let own (path : Bytes) : Bytes :=
    let trimmed := (path.reverse.dropWhile (· = Bytes.slash)).reverse
    let above := ((trimmed.reverse.dropWhile (· ≠ Bytes.slash)).dropWhile (· = Bytes.slash)).reverse
    if !above.isEmpty then above
    else if path.head? = some Bytes.slash then [Bytes.slash]
    else Files.here
  return statusOf (← emit (use.operands.flatMap fun path => own path ++ [use.lineEnd]))

/-- The number of nanoseconds in what a letter behind a number of them stands for. -/
def unit? (letters : Bytes) : Option Nat :=
  match Utf8.text letters with
  | "" | "s" => some 1000000000
  | "m" => some 60000000000
  | "h" => some 3600000000000
  | "d" => some 86400000000000
  | _ => none

/-- The time that a word names: a number of seconds, or of what a letter behind it stands for. -/
def moment? (word : Bytes) : Option Files.Moment :=
  match Real.read .extended word with
  | some (.finite false mantissa exponent, _, rest) =>
    (unit? rest).map fun unit =>
      if 0 ≤ exponent then mantissa * unit * Nat.pow 2 exponent.toNat
      else mantissa * unit / Nat.pow 2 (-exponent).toNat
  | some (.infinite false, _, rest) => (unit? rest).map fun unit => Nat.pow 10 20 * unit
  | _ => none

/-- How long words ask time to pass, or the status of the tool if they do not. -/
def duration? (words : List Bytes) : Action (Except Nat Files.Moment) := do
  match Use.read { letters := "" } {} [] words with
  | .error message =>
    refuseUse message
    return .error 1
  | .ok use =>
    if use.operands.isEmpty then
      refuseUse (Bytes.ofString "missing operand")
      return .error 1
    match use.operands.filter fun word => (moment? word).isNone with
    | [] => return .ok ((use.operands.filterMap moment?).foldl (· + ·) 0)
    | words =>
      for word in words do
        remark (Bytes.ofString "invalid time interval " ++ quotedText word)
      tellHelp
      return .error 1

end Intercept.Shell.Tool
