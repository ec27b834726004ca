import Intercept.Shell.Tool.Starting

/-!
# Programs for what is read

The tool that starts a program with arguments that it reads: words between blanks, in which quotes
and backslashes keep bytes from having a meaning, or the texts between other bytes.
-/

namespace Intercept.Shell.Tool

/-- An argument that has been read, and whether it is the last one of a line. -/
structure ReadArgument where
  text : Bytes
  endsLine : Bool := false
  deriving DecidableEq, Repr

/-- What has been read of a text. -/
structure ArgumentScan where
  done : List ReadArgument := []
  /-- The argument that is being read; nothing between arguments. -/
  current : Option Bytes := none
  quote : Option UInt8 := none
  escaped : Bool := false
  /-- Whether a quote was still open at the end of a line. -/
  isOpen : Option UInt8 := none
  /-- Whether the last byte was a blank. -/
  behindBlank : Bool := false

namespace ArgumentScan

def push (s : ArgumentScan) (b : UInt8) : ArgumentScan :=
  { s with current := some (s.current.getD [] ++ [b]), escaped := false, behindBlank := false }

def close (s : ArgumentScan) : ArgumentScan :=
  let last := (s.current.map fun text => { text : ReadArgument }).toList
  { s with done := s.done ++ last, current := none }

/-- Ends a line, which goes on behind a blank. -/
def closeLine (s : ArgumentScan) : ArgumentScan :=
  let closed := s.close
  if s.behindBlank then closed
  else match closed.done.reverse with
    | last :: others => { closed with done := ({ last with endsLine := true } :: others).reverse }
    | [] => closed

/-- Takes up a byte. A line is one argument where `wholeLines` holds. -/
def step (wholeLines : Bool) (s : ArgumentScan) (b : UInt8) : ArgumentScan :=
  if s.isOpen.isSome then s
  else if s.escaped then s.push b
  else
    match s.quote with
    | some quote =>
      if b = quote then { s with quote := none }
      else if b = Bytes.newline then { s with isOpen := some quote }
      else s.push b
    | none =>
      if b = Bytes.newline then { s.closeLine with behindBlank := false }
      else if isBlank b && (!wholeLines || s.current.isNone) then
        { s.close with behindBlank := true }
      else if b = 0x5C then { s with escaped := true, behindBlank := false }
      else if b = 0x27 || b = Bytes.quote then
        { s with quote := some b, current := some (s.current.getD []), behindBlank := false }
      else s.push b

/-- Reads a text: its arguments, and the quote that was left open. -/
def read (wholeLines : Bool) (text : Bytes) : List ReadArgument × Option UInt8 :=
  let s := text.foldl (step wholeLines) {}
  match s.isOpen, s.quote with
  | some quote, _ | none, some quote => (s.done, some quote)
  | none, none => (s.closeLine.done, none)

end ArgumentScan

/-- How arguments are given to programs. -/
inductive Batching where
  | all
  | words (count : Nat)
  | lines (count : Nat)
  /-- One at a time, in the places where a text stands. -/
  | inPlace (pattern : Bytes)
  deriving DecidableEq, Repr

/-- A text with all places where another stands filled by a third. The first argument bounds the
number of bytes. -/
def replaceAll (pattern filling : Bytes) : Nat → Bytes → Bytes
  | 0, _ => []
  | _ + 1, [] => []
  | fuel + 1, b :: rest =>
    match if pattern.isEmpty then none else Bytes.dropStart? pattern (b :: rest) with
    | some rest => filling ++ replaceAll pattern filling fuel rest
    | none => b :: replaceAll pattern filling fuel rest

/-- Arguments cut behind so many lines. -/
def cutLines (count : Nat) (arguments : List ReadArgument) :
    List ReadArgument × List ReadArgument :=
  let ends := arguments.zipIdx.filter (·.1.endsLine)
  match ends[count - 1]? with
  | some (_, index) => arguments.splitAt (index + 1)
  | none => (arguments, [])

/-- The number of arguments that fit behind a command into some bytes; at least one is taken. -/
def fitting (limit : Nat) (command : List Bytes) (arguments : List ReadArgument) : Nat :=
  let own (words : List Bytes) : Nat := (words.map (·.length + 1)).foldl (· + ·) 0
  let room := limit - own command
  let sums := (List.range arguments.length).map fun n =>
    own ((arguments.take (n + 1)).map (·.text))
  max 1 (sums.takeWhile (· ≤ room)).length

/-- The commands that are carried out. The last argument bounds their number. -/
def batches (batching : Batching) (limit : Option Nat) (command : List Bytes)
    (arguments : List ReadArgument) : Nat → List (List Bytes)
  | 0 => []
  | fuel + 1 =>
    match arguments with
    | [] => []
    | first :: rest =>
      match batching with
      | .inPlace pattern =>
        (command.map fun word => replaceAll pattern first.text (word.length + 1) word) ::
          batches batching limit command rest fuel
      | _ =>
        let (now, later) := match batching with
          | .words count => arguments.splitAt count
          | .lines count => cutLines count arguments
          | _ => (arguments, [])
        let count := match limit with
          | some limit => fitting limit command now
          | none => now.length
        (command ++ (now.take count).map (·.text)) ::
          batches batching limit command (now.drop count ++ later) fuel

/-- How the tool goes on behind a program. -/
inductive BatchEnd where
  | goesOn (status : Nat)
  | stops (status : Nat)

/-- What the end of a program means for the tool. -/
def afterBatch (name : Bytes) : Except Errno WaitStatus → Action BatchEnd
  | .error errno => do
    explain "" (nameText name) errno.description
    return .stops (statusNotStartedBy errno)
  | .ok (.exited 0) => return .goesOn 0
  | .ok (.exited 255) => do
    remark (nameText name ++ Bytes.ofString ": exited with status 255; aborting")
    return .stops 124
  | .ok (.exited _) => return .goesOn 123
  | .ok (.signalled signal) => do
    remark (nameText name ++ Bytes.ofString s!": terminated by signal {signal}")
    return .stops 125
  | .ok _ => return .goesOn 123

/-- Carries out commands one after the other, up to one that ends the tool. -/
def startBatches (launcher : Launcher) (tells : Bool) (status : Nat) :
    List (List Bytes) → Action Nat
  | [] => return status
  | command :: commands => do
    if tells then Action.tell (Bytes.joinWith Bytes.space (command.map nameText))
    match ← afterBatch (command.headD []) (← launcher.start command) with
    | .goesOn code => startBatches launcher tells (max status code) commands
    | .stops code => return code

/-- Options in the form in which an argument may stand in the word of an option or be left out. -/
def withBatchDefaults (word : Bytes) : List Bytes :=
  let filled (letter : String) (usual rest : Bytes) : List Bytes :=
    [Bytes.ofString letter, if rest.isEmpty then usual else rest]
  match word with
  | 0x2D :: 0x69 :: rest => filled "-I" (Bytes.ofString "\x7b\x7d") rest
  | 0x2D :: 0x6C :: rest => filled "-L" (Bytes.ofString "1") rest
  | 0x2D :: 0x65 :: rest => filled "-E" [] rest
  | _ =>
    let name := Bytes.ofString "--replace"
    if word = name then filled "-I" (Bytes.ofString "\x7b\x7d") []
    else if (name ++ [Bytes.equalsSign]).isPrefixOf word then filled "-I" [] (word.drop 10)
    else [word]

def batchOptions : Use.Known :=
  { letters := "0a:d:E:I:L:n:oprs:txP:"
    names := [("null", '0'), ("arg-file", 'a'), ("delimiter", 'd'), ("eof", 'E'),
      ("max-lines", 'L'), ("max-args", 'n'), ("open-tty", 'o'), ("interactive", 'p'),
      ("no-run-if-empty", 'r'), ("max-chars", 's'), ("verbose", 't'), ("exit", 'x'),
      ("max-procs", 'P')] }

/-- How options ask for arguments to be given; the last of those that exclude each other counts. The
message tells what is ignored. -/
def batchingOf (use : Use) : Except Bytes (Batching × List String) := do
  let number (letter : Char) (text : Bytes) : Except Bytes Nat :=
    match number? text with
    | some n =>
      if n = 0 then
        .error (Bytes.ofString s!"value 0 for -{letter} option should be >= 1")
      else .ok n
    | none =>
      .error (Bytes.ofString "invalid number \"" ++ text ++
        Bytes.ofString s!"\" for -{letter} option")
  let name : Batching → String
    | .all => ""
    | .words _ => "--max-args"
    | .lines _ => "--max-lines"
    | .inPlace _ => "--replace"
  let shown : Batching → String
    | .inPlace _ => "--replace/-I/-i"
    | .lines _ => "-L"
    | _ => "--max-args/-n"
  use.options.foldlM (fun (batching, warnings) (letter, text) => do
    let next : Option Batching ← match letter with
      | 'n' => pure (some (.words (← number 'n' text)))
      | 'L' => pure (some (.lines (← number 'L' text)))
      | 'I' => pure (some (.inPlace text))
      | _ => pure none
    match batching, next with
    | _, none => return (batching, warnings)
    | .all, some next => return (next, warnings)
    | .inPlace pattern, some (.words 1) => return (.inPlace pattern, warnings)
    | before, some next =>
      if name before = name next then return (next, warnings)
      else return (next, warnings ++
        [s!"warning: options {name before} and {shown next} are mutually exclusive, " ++
          s!"ignoring previous {name before} value"])) (.all, [])

/-- The arguments that are read, up to the word that stands for the end, and the quote that was left
open. -/
def readArguments (use : Use) (batching : Batching) (text : Bytes) :
    List ReadArgument × Option UInt8 :=
  let separator? : Option UInt8 := use.options.foldl (fun chosen (letter, argument) =>
    match letter with
    | '0' => some 0
    | 'd' =>
      match Format.escaped .tool argument with
      | (b :: _, _) => some b
      | _ => some 0
    | _ => chosen) none
  match separator? with
  | some separator =>
    let parts := Bytes.splitAt separator text
    let parts := if parts.getLast? = some [] then parts.dropLast else parts
    (parts.map fun text => { text, endsLine := true }, none)
  | none =>
    let wholeLines := match batching with
      | .inPlace _ => true
      | _ => false
    let (arguments, quote) := ArgumentScan.read wholeLines text
    match use.argument? 'E' with
    | some word =>
      if word.isEmpty then (arguments, quote)
      else (arguments.takeWhile (·.text ≠ word), quote)
    | none => (arguments, quote)

/-- Starts a program with what can be read as its arguments. -/
def xargs (launcher : Launcher) (words : List Bytes) : Action WaitStatus := do
  let (front, _) := batchOptions.cutFront (fun _ => false) words
  let spelled := front.flatMap withBatchDefaults ++ words.drop front.length
  withProgram batchOptions 1 spelled fun use => do
    match batchingOf use with
    | .error message =>
      refuseUse message
      return .ofCode 1
    | .ok (batching, warnings) =>
      for warning in warnings do remark (Bytes.ofString warning)
      let p ← get
      let source := use.argument? 'a'
      let contents := match source with
        | some path => contentsOfName p path
        | none => .ok (p.input 0)
      match contents with
      | .error cause =>
        explain "Cannot open input file " (shellQuoted (source.getD [])) (reason cause)
        return .ofCode 1
      | .ok text =>
        takeFrom (source.getD inputSign) text.length
        if source.isNone then
          modify fun p =>
            let (index, opened) := p.openStream []
            opened.setChannel 0 (some (.reading index))
        let (arguments, quote) := readArguments use batching text
        let command := if use.operands.isEmpty then [Bytes.ofString "echo"] else use.operands
        let limit := (use.argument? 's').bind number?
        let isInPlace := match batching with
          | .inPlace _ => true
          | _ => false
        let commands :=
          if arguments.isEmpty && !isInPlace && !use.has 'r' && quote.isNone then [command]
          else batches batching limit command arguments (arguments.length + 1)
        let status ← startBatches launcher (use.hasAny "tp") 0 commands
        match quote with
        | none => return .ofCode status
        | some quote =>
          let kind := if quote = 0x27 then "single" else "double"
          remark (Bytes.ofString (s!"unmatched {kind} quote; by default quotes are special to " ++
            "xargs unless you use the -0 option"))
          return .ofCode 1

end Intercept.Shell.Tool
