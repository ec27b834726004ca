import Intercept.Shell.Editor.Substitution
import Intercept.Shell.Quoting

/-!
# Carrying out scripts

Each line is read into the text that is edited, the script is carried out for it, and the text is
passed on. What is to follow it is kept until then.
-/

namespace Intercept.Shell.Editor

/-- A line that is read. -/
structure InputLine where
  bytes : Bytes
  /-- Whether the line has an end. -/
  isEnded : Bool := true
  /-- The name of its file. -/
  file : Bytes
  isLast : Bool := false
  /-- Whether lines are counted anew from this one on. -/
  isFirst : Bool := false
  deriving Repr

/-- A text that is being written. The end of its last line may be missing. -/
structure Written where
  text : Bytes := []
  isOpen : Bool := false
  deriving Repr

namespace Written

/-- Adds a line, which may have no end. Where the end of the one before is missing, it comes
first. -/
def add (w : Written) (ending : UInt8) (line : Bytes) (isEnded : Bool) : Written :=
  let gap : Bytes := if w.isOpen then [ending] else []
  { text := w.text ++ gap ++ line ++ (if isEnded then [ending] else []), isOpen := !isEnded }

end Written

/-- What is to follow a line. -/
inductive Following where
  | text (bytes : Bytes)
  | file (path : Bytes)
  | lineOf (path : Bytes)

structure State where
  /-- The text that is edited, and whether its line has an end. -/
  edited : Bytes := []
  isEnded : Bool := true
  held : Bytes := []
  number : Nat := 0
  line : InputLine := { bytes := [], file := [] }
  rest : List InputLine := []
  following : List Following := []
  /-- Whether something has been replaced since a line was read or this was asked. -/
  hasReplaced : Bool := false
  /-- What was looked for last. -/
  lastSought : Option Regular := none
  /-- The ranges that have begun, by the numbers of their commands, with the lines at which they end
  if these are known. -/
  ranges : List (Nat × Option Nat) := []
  /-- The chunks that have been written, latest first, and whether the last line is open. -/
  chunks : List Bytes := []
  isOpen : Bool := false
  /-- What is written to files. -/
  files : List (Bytes × Written) := []
  /-- How many lines of files have been read one by one. -/
  taken : List (Bytes × Nat) := []
  /-- Whether it has been asked if there is a line behind this one. -/
  looksAhead : Bool := false

/-- What a script is carried out with. -/
structure Setting where
  instructions : Array Instruction
  isQuiet : Bool
  lineEnd : UInt8
  /-- The contents of a file. -/
  read? : Bytes → Option Bytes

/-- Why the script is not carried on with. -/
inductive Outcome where
  /-- The line is done, and is passed on unless that is not wanted. -/
  | done
  | deleted
  /-- The script begins anew without another line. -/
  | anew
  | quit (code : Nat) (passes : Bool)
  | failed (message : String)

namespace State

/-- Writes a line. -/
def emit (s : State) (ending : UInt8) (line : Bytes) (isEnded : Bool := true) : State :=
  let gap : Bytes := if s.isOpen then [ending] else []
  { s with
    chunks := (gap ++ line ++ if isEnded then [ending] else []) :: s.chunks
    isOpen := !isEnded }

/-- The path that stands for the output. -/
def outputPath : Bytes := Bytes.ofString "/dev/stdout"

/-- Writes a line to a file. -/
def emitTo (s : State) (ending : UInt8) (path line : Bytes) (isEnded : Bool) : State :=
  if path = outputPath then s.emit ending line isEnded
  else
    let before := (s.files.lookup path).getD {}
    { s with files := (path, before.add ending line isEnded) :: s.files.filter (·.1 ≠ path) }

def print (s : State) (setting : Setting) : State := s.emit setting.lineEnd s.edited s.isEnded

/-- Writes bytes as they are. -/
def emitText (s : State) (ending : UInt8) (text : Bytes) : State :=
  if text.isEmpty then s
  else
    let gap : Bytes := if s.isOpen then [ending] else []
    { s with chunks := (gap ++ text) :: s.chunks, isOpen := false }

/-- Writes what was to follow the line. -/
def flush (s : State) (setting : Setting) : State :=
  let written := s.following.foldl (fun (s : State) one =>
    match one with
    | .text bytes => s.emitText setting.lineEnd bytes
    | .file path => s.emitText setting.lineEnd ((setting.read? path).getD [])
    | .lineOf path =>
      let text := (setting.read? path).getD []
      let index := (s.taken.lookup path).getD 0
      let parts := Bytes.splitAt setting.lineEnd text
      let lines := if parts.getLast? = some [] then parts.dropLast else parts
      match lines[index]? with
      | some line =>
        { s.emit setting.lineEnd line with
          taken := (path, index + 1) :: s.taken.filter (·.1 ≠ path) }
      | none => s) s
  { written with following := [] }

/-- Reads the next line, if there is one; it is put behind the text by `add`. -/
def advance? (s : State) (setting : Setting) (add : Bytes → Bytes → Bytes) : Option State :=
  match s.rest with
  | [] => none
  | line :: rest =>
    let s := s.flush setting
    some { s with
      edited := add s.edited line.bytes
      isEnded := line.isEnded
      number := if line.isFirst then 1 else s.number + 1
      line
      rest
      looksAhead := false }

/-- What an expression finds in the text, and the state in which it was looked for. -/
def seek (s : State) (sought : Sought) : Except String (Regular × State) :=
  match sought.expression, s.lastSought with
  | some expression, _ => .ok (expression, { s with lastSought := some expression })
  | none, some expression => .ok (expression, s)
  | none, none => .error "no previous regular expression"

/-- Whether an address selects the line. -/
def isAt (s : State) (address : Address) : Except String (Bool × State) :=
  match address with
  | .line number => .ok (s.number = number, s)
  | .last => .ok (s.line.isLast, { s with looksAhead := true })
  | .every first step => .ok (first ≤ s.number && (s.number - first) % step = 0, s)
  | .having sought => do
    let (expression, s) ← s.seek sought
    let subject := Subject.ofBytes s.edited sought.ignoresCase sought.hasLines
    return ((subject.search? expression).isSome, s)

/-- The line at which a range ends that begins here, if that is known. -/
def endOfRange (s : State) : RangeEnd → Option Nat
  | .address (.line number) => some number
  | .address _ => none
  | .after count => some (s.number + count)
  | .multiple count =>
    some (if count = 0 then s.number else (s.number / count + 1) * count)

def closeRange (s : State) (index : Nat) : State :=
  { s with ranges := s.ranges.filter (·.1 ≠ index) }

/-- Whether a range that has begun still holds, and the state behind the line. -/
def inRange (s : State) (index : Nat) (last : RangeEnd) (known : Option Nat) :
    Except String (Bool × State) :=
  match known, last with
  | some number, _ =>
    .ok (s.number ≤ number, if number ≤ s.number then s.closeRange index else s)
  | none, .address address => do
    let (isEnd, s) ← s.isAt address
    return (true, if isEnd then s.closeRange index else s)
  | none, _ => .ok (true, s)

/-- Whether the command of a number is carried out for the line. -/
def isSelected (s : State) (index : Nat) (selection : Selection) :
    Except String (Bool × State) := do
  let (own, s) ← match selection.first, selection.last with
    | none, _ => pure (true, s)
    | some first, none => s.isAt first
    | some first, some last =>
      let open? := if first = .line 0 && s.number = 1 && (s.ranges.lookup index).isNone
        then some none else s.ranges.lookup index
      match open? with
      | some known =>
        let begun := if first = .line 0 && s.number = 1
          then { s with ranges := (index, none) :: s.ranges } else s
        begun.inRange index last known
      | none =>
        let (begins, s) ← s.isAt first
        if !begins then pure (false, s)
        else
          let known := s.endOfRange last
          if known.any (· ≤ s.number) then pure (true, s)
          else pure (true, { s with ranges := (index, known) :: s.ranges })
  return (own != selection.inverted, s)

/-- The text of a line in which all bytes are visible, cut to a width. -/
def listed (width : Nat) (text : Bytes) : Bytes :=
  let shown (b : UInt8) : Bytes :=
    if b = 0x5C then [0x5C, 0x5C] else if isPrintable b then [b] else visibleEscape b
  let (all, _) := text.foldl (fun (all, column) b =>
    let own := shown b
    if 1 < width && width - 1 < column + own.length then
      (all ++ [0x5C, Bytes.newline] ++ own, own.length)
    else (all ++ own, column + own.length)) (([], 0) : Bytes × Nat)
  all ++ [0x24]

/-- The width to which lines are cut where nothing else is said. -/
def usualWidth : Nat := 70

/-- The front of a text up to the end of its first line. -/
def firstLine (text : Bytes) : Bytes := text.takeWhile (· ≠ Bytes.newline)

end State

/-- Carries out a command: the state, and the number of the next command or what has come of it. -/
def perform (setting : Setting) (s : State) (index : Nat) (selection : Selection) (work : Work) :
    State × (Nat ⊕ Outcome) :=
  let next (s : State) : State × (Nat ⊕ Outcome) := (s, .inl (index + 1))
  let stop (s : State) (outcome : Outcome) : State × (Nat ⊕ Outcome) := (s, .inr outcome)
  let ending := setting.lineEnd
  match work with
  | .nothing => next s
  | .block _ => next s
  | .append text => next { s with following := s.following ++ [.text text] }
  | .insert text => next (s.emitText ending text)
  | .change text =>
    let isOver := selection.last.isNone || selection.inverted || (s.ranges.lookup index).isNone
    stop (if isOver then s.emitText ending text else s) .deleted
  | .delete => stop s .deleted
  | .deleteLine =>
    if s.edited.contains Bytes.newline then
      stop { s with edited := s.edited.drop ((State.firstLine s.edited).length + 1) } .anew
    else stop s .deleted
  | .print => next (s.print setting)
  | .printLine => next (s.emit ending (State.firstLine s.edited))
  | .next =>
    if s.line.isLast then stop s .done
    else
      let shown := if setting.isQuiet then s else s.print setting
      match shown.advance? setting fun _ line => line with
      | some s => next s
      | none => stop s .done
  | .appendNext =>
    if s.line.isLast then stop s .done
    else
      match s.advance? setting fun edited line => edited ++ Bytes.newline :: line with
      | some s => next s
      | none => stop s .done
  | .fetch => next { s with edited := s.held }
  | .appendHeld => next { s with edited := s.edited ++ Bytes.newline :: s.held }
  | .hold => next { s with held := s.edited }
  | .appendToHeld => next { s with held := s.held ++ Bytes.newline :: s.edited }
  | .exchange => next { s with edited := s.held, held := s.edited }
  | .substitute substitution =>
    match s.seek substitution.sought with
    | .error message => stop s (.failed message)
    | .ok (expression, s) =>
      match substitution.apply? expression s.edited with
      | none => next s
      | some text =>
        let s := { s with edited := text, hasReplaced := true }
        let s := if substitution.prints then s.print setting else s
        match substitution.path with
        | none => next s
        | some path => next (s.emitTo ending path s.edited s.isEnded)
  | .replaceEach pairs =>
    next { s with edited := s.edited.map fun b => (pairs.lookup b).getD b }
  | .jump target => (s, .inl target)
  | .jumpIfReplaced target =>
    if s.hasReplaced then ({ s with hasReplaced := false }, .inl target) else next s
  | .jumpUnlessReplaced target =>
    if s.hasReplaced then next { s with hasReplaced := false } else (s, .inl target)
  | .lineNumber => next (s.emitText ending (digitsOf s.number ++ [Bytes.newline]))
  | .fileName => next (s.emitText ending (s.line.file ++ [Bytes.newline]))
  | .list width =>
    let listed := State.listed (width.getD State.usualWidth) s.edited
    next (s.emitText ending (listed ++ [Bytes.newline]))
  | .quit code => stop s (.quit code true)
  | .quitSilently code => stop s (.quit code false)
  | .read path => next { s with following := s.following ++ [.file path] }
  | .readLine path => next { s with following := s.following ++ [.lineOf path] }
  | .write path => next (s.emitTo ending path s.edited s.isEnded)
  | .writeLine path => next (s.emitTo ending path (State.firstLine s.edited) true)
  | .clear => next { s with edited := [] }

/-- Carries out the script from a command on. The first argument bounds the number of commands. -/
def runFrom (setting : Setting) : Nat → State → Nat → State × Outcome
  | 0, s, _ => (s, .failed "endless script")
  | fuel + 1, s, index =>
    match setting.instructions[index]? with
    | none => (s, .done)
    | some { selection, work } =>
      match s.isSelected index selection with
      | .error message => (s, .failed message)
      | .ok (isSelected, s) =>
        if isSelected then
          match perform setting s index selection work with
          | (s, .inl next) => runFrom setting fuel s next
          | (s, .inr outcome) => (s, outcome)
        else
          match work with
          | .block behind => runFrom setting fuel s behind
          | _ => runFrom setting fuel s (index + 1)

/-- How many commands can be carried out for a line. -/
def commandLimit : Nat := 1000000

/-- Carries out the script for all lines, and gives the status with which it is left before the
last, or the message that tells why. The first argument bounds the number of rounds. -/
def runAll (setting : Setting) : Nat → Bool → State → State × Except String (Option Nat)
  | 0, _, s => (s, .ok none)
  | fuel + 1, reads, s =>
    let read? := if reads then
        (s.advance? setting fun _ line => line).map fun s => { s with hasReplaced := false }
      else some s
    match read? with
    | none => (s.flush setting, .ok none)
    | some s =>
      match runFrom setting commandLimit s 0 with
      | (s, .done) =>
        let shown := if setting.isQuiet then s else s.print setting
        runAll setting fuel true (shown.flush setting)
      | (s, .deleted) => runAll setting fuel true (s.flush setting)
      | (s, .anew) => runAll setting fuel false (s.flush setting)
      | (s, .quit code passes) =>
        let shown := if setting.isQuiet || !passes then s else s.print setting
        (if passes then shown.flush setting else shown, .ok (some code))
      | (s, .failed message) => (s, .error message)

end Intercept.Shell.Editor
