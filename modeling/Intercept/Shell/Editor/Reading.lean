import Intercept.Shell.Editor.Script
import Intercept.Shell.Regular.Reading

/-!
# Reading scripts

Commands stand one behind the other, with semicolons or ends of lines between them. Labels and
blocks are put in the place of numbers of commands when all has been read.
-/

namespace Intercept.Shell.Editor

/-- The reading of a text of commands. A failure is a message. -/
abbrev Reading := ExceptT String (StateM Bytes)

namespace Reading

def fail {α : Type} (message : String) : Reading α := throw message

/-- The next byte, which is taken; none at the end. -/
def next : Reading (Option UInt8) := do
  match ← get with
  | [] => return none
  | b :: rest =>
    set rest
    return some b

/-- Puts back a byte that has been taken. -/
def back (b : Option UInt8) : Reading Unit := modify fun rest => b.toList ++ rest

/-- The next byte that is no blank. -/
def nextFilled : Reading (Option UInt8) := do
  modify fun rest => rest.dropWhile isBlank
  next

/-- The digits that are next. -/
def digits : Reading Bytes := do
  let rest ← get
  set (rest.dropWhile isDigit)
  return rest.takeWhile isDigit

/-- What is next up to the end of the line. -/
def restOfLine : Reading Bytes := do
  let rest ← get
  let line := rest.takeWhile (· ≠ Bytes.newline)
  set (rest.drop (line.length + 1))
  return line

/-- The end of a command. -/
def endOfCommand : Reading Unit := do
  let b ← nextFilled
  match b with
  | none => return ()
  | some c =>
    if c = 0x7D || c = 0x23 then back b
    else if c ≠ Bytes.newline && c ≠ 0x3B then fail "extra characters after command"

/-- A text up to a byte that ends it, outside of brackets where it is an expression; none if there
is no such byte. -/
def upTo (ending : UInt8) (isExpression : Bool) : Nat → Bytes → Bool → Reading (Option Bytes)
  | 0, _, _ => return none
  | fuel + 1, text, inBrackets => do
    let push (bytes : Bytes) (inBrackets : Bool) : Reading (Option Bytes) :=
      upTo ending isExpression fuel (bytes.reverse ++ text) inBrackets
    match ← next with
    | none => return none
    | some b =>
      if b = ending && !inBrackets then return some text.reverse
      else if b = Bytes.newline && !inBrackets then
        back (some b)
        return none
      else if inBrackets then
        match ← get with
        | sign :: rest =>
          if b = 0x5B && (Bytes.ofString ":.=").contains sign then
            let inner := rest.takeWhile (· ≠ 0x5D)
            set (rest.drop (inner.length + 1))
            push (b :: sign :: inner ++ [0x5D]) true
          else if b = 0x5C && sign = 0x6E then
            set rest
            push [Bytes.newline] true
          else push [b] (b ≠ 0x5D)
        | [] => push [b] (b ≠ 0x5D)
      else if b = 0x5C then
        match ← next with
        | none => return none
        | some c =>
          if c = ending && (isExpression || c ≠ 0x26) then push [c] false
          else if c = 0x6E && isExpression then push [Bytes.newline] false
          else push [b, c] false
      else if b = 0x5B && isExpression then
        let rest ← get
        let start := rest.takeWhile (· = 0x5E) |>.take 1
        let closing := (rest.drop start.length).takeWhile (· = 0x5D) |>.take 1
        set (rest.drop (start.length + closing.length))
        push (b :: start ++ closing) true
      else push [b] false

/-- A text up to a byte that ends it. -/
def delimited (ending : UInt8) (isExpression : Bool) : Reading (Option Bytes) := do
  upTo ending isExpression ((← get).length + 1) [] false

/-- The value of digits with a base, and what follows them. -/
def based (base count : Nat) (text : Bytes) : Option (UInt8 × Bytes) :=
  let value (b : UInt8) : Option Nat :=
    let n := b.toNat
    let own := if isDigit b then n - 48
      else if 0x41 ≤ b && b ≤ 0x46 then n - 55
      else if 0x61 ≤ b && b ≤ 0x66 then n - 87
      else 99
    if own < base then some own else none
  let own := (text.take count).takeWhile fun b => (value b).isSome
  if own.isEmpty then none
  else
    let n := own.foldl (fun n b => base * n + (value b).getD 0) 0
    some (UInt8.ofNat n, text.drop own.length)

/-- A text in which a byte stands in the place of what names it: a letter behind a backslash, or a
number. -/
def withBytes : Nat → Bytes → Bytes
  | 0, text => text
  | _ + 1, [] => []
  | fuel + 1, 0x5C :: letter :: rest =>
    let numbered (base count : Nat) : Bytes :=
      match based base count rest with
      | some (b, rest) => b :: withBytes fuel rest
      | none => 0x5C :: letter :: withBytes fuel rest
    let own (b : UInt8) : Bytes := b :: withBytes fuel rest
    match Bytes.asChar letter with
    | 'a' => own 0x07
    | 'f' => own 0x0C
    | 'r' => own 0x0D
    | 't' => own 0x09
    | 'v' => own 0x0B
    | 'd' => numbered 10 3
    | 'o' => numbered 8 3
    | 'x' => numbered 16 2
    | _ => 0x5C :: letter :: withBytes fuel rest
  | fuel + 1, b :: rest => b :: withBytes fuel rest

/-- The expression of a text with flags. -/
def sought (extended ignoresCase hasLines : Bool) (text : Bytes) : Reading Sought := do
  if text.isEmpty then return { expression := none, ignoresCase, hasLines }
  match Regular.read { extended, strict := true } (withBytes (text.length + 1) text) with
  | .ok expression => return { expression := some expression, ignoresCase, hasLines }
  | .error flaw => fail flaw.message

/-- The flags behind an expression in an address. -/
def soughtFlags (extended : Bool) (text : Bytes) : Nat → Bool → Bool → Reading Sought
  | 0, ignoresCase, hasLines => sought extended ignoresCase hasLines text
  | fuel + 1, ignoresCase, hasLines => do
    let b ← nextFilled
    match b with
    | some 0x49 => soughtFlags extended text fuel true hasLines
    | some 0x4D => soughtFlags extended text fuel ignoresCase true
    | _ =>
      back b
      sought extended ignoresCase hasLines text

/-- The address that a byte begins, if it does: one that only ends a range is one too. -/
def address? (extended : Bool) (b : UInt8) : Reading (Option (Address ⊕ RangeEnd)) := do
  if b = 0x24 then return some (.inl .last)
  else if isDigit b then
    let first := decimal (b :: (← digits))
    let sign ← nextFilled
    if sign = some 0x7E then
      modify fun rest => rest.dropWhile isBlank
      let step := decimal (← digits)
      return some (.inl (if step = 0 then .line first else .every first step))
    else
      back sign
      return some (.inl (.line first))
  else if b = 0x2B || b = 0x7E then
    modify fun rest => rest.dropWhile isBlank
    let count := decimal (← digits)
    return some (.inr (if b = 0x2B then .after count else .multiple count))
  else if b = 0x2F || b = 0x5C then
    let ending ← if b = 0x5C then next else pure (some b)
    match ending with
    | none => fail "unterminated address regex"
    | some ending =>
      match ← delimited ending true with
      | none => fail "unterminated address regex"
      | some text =>
        let rest ← get
        return some (.inl (.having (← soughtFlags extended text (rest.length + 1) false false)))
  else return none

/-- The text of a command that adds one, up to the end of a line without a backslash. The first
argument bounds its length. -/
def addedText : Nat → Reading Bytes
  | 0 => return []
  | fuel + 1 => do
    match ← next with
    | none => return [Bytes.newline]
    | some 0x0A => return [Bytes.newline]
    | some 0x5C =>
      match ← next with
      | none => return [Bytes.newline]
      | some c =>
        let own : UInt8 := match Bytes.asChar c with
          | 'a' => 0x07
          | 'f' => 0x0C
          | 'n' => 0x0A
          | 'r' => 0x0D
          | 't' => 0x09
          | 'v' => 0x0B
          | _ => c
        return own :: (← addedText fuel)
    | some b => return b :: (← addedText fuel)

/-- The text behind the letter of a command that adds one. -/
def textOfCommand : Reading Bytes := do
  let refusal := "expected \\ after " ++ "\x60a', \x60c' or \x60i'"
  let b ← nextFilled
  let fuel := (← get).length + 2
  match b with
  | none => fail refusal
  | some 0x5C =>
    let rest ← get
    if rest.isEmpty then return []
    let filled := rest.dropWhile isBlank
    if filled.head? = some Bytes.newline then set (filled.drop 1)
    addedText fuel
  | some b =>
    back (some b)
    addedText fuel

/-- The parts of what replaces a match. -/
def replacing : Nat → Bytes → List Replacing
  | 0, _ => []
  | _ + 1, [] => []
  | fuel + 1, 0x5C :: letter :: rest =>
    let own : Replacing :=
      if isDigit letter then .group (letter.toNat - 48)
      else
        match Bytes.asChar letter with
        | 'U' => .change .upper
        | 'L' => .change .lower
        | 'u' => .change .upperNext
        | 'l' => .change .lowerNext
        | 'E' => .change .none
        | 'n' => .text [Bytes.newline]
        | _ => .text [letter]
    own :: replacing fuel rest
  | fuel + 1, b :: rest =>
    let own : Replacing := if b = 0x26 then .group 0 else .text [b]
    own :: replacing fuel rest

/-- The number of groups of an expression. -/
def groupsOf : Regular → Nat
  | .group number inner => max number (groupsOf inner)
  | .behind first second | .either first second => max (groupsOf first) (groupsOf second)
  | .repeated _ _ inner => groupsOf inner
  | _ => 0

/-- The flags of a substitution. -/
def substitutionFlags : Nat → Substitution → (ignoresCase hasLines isNumbered : Bool) →
    Reading (Substitution × Bool × Bool)
  | 0, s, ignoresCase, hasLines, _ => return (s, ignoresCase, hasLines)
  | fuel + 1, s, ignoresCase, hasLines, isNumbered => do
    let kind := "options to \x60s' command"
    let b ← next
    match b with
    | none => return (s, ignoresCase, hasLines)
    | some c =>
      match Bytes.asChar c with
      | '\n' => return (s, ignoresCase, hasLines)
      | ';' => return (s, ignoresCase, hasLines)
      | '\x7d' =>
        back b
        return (s, ignoresCase, hasLines)
      | '#' =>
        back b
        return (s, ignoresCase, hasLines)
      | 'i' => substitutionFlags fuel s true hasLines isNumbered
      | 'I' => substitutionFlags fuel s true hasLines isNumbered
      | 'm' => substitutionFlags fuel s ignoresCase true isNumbered
      | 'M' => substitutionFlags fuel s ignoresCase true isNumbered
      | 'p' =>
        if s.prints then fail ("multiple \x60p' " ++ kind)
        else substitutionFlags fuel { s with prints := true } ignoresCase hasLines isNumbered
      | 'g' =>
        if s.isGlobal then fail ("multiple \x60g' " ++ kind)
        else substitutionFlags fuel { s with isGlobal := true } ignoresCase hasLines isNumbered
      | 'w' =>
        modify fun rest => rest.dropWhile isBlank
        let path ← restOfLine
        if path.isEmpty then fail "missing filename in r/R/w/W commands"
        return ({ s with path := some path }, ignoresCase, hasLines)
      | _ =>
        if isDigit c then
          if isNumbered then fail ("multiple number " ++ kind)
          let number := decimal (c :: (← digits))
          if number = 0 then fail "number option to \x60s' command may not be zero"
          substitutionFlags fuel { s with number } ignoresCase hasLines true
        else if isBlank c then substitutionFlags fuel s ignoresCase hasLines isNumbered
        else fail "unknown option to \x60s'"

/-- A substitution, behind its letter. -/
def substitution (extended : Bool) : Reading Work := do
  let refusal := "unterminated \x60s' command"
  match ← next with
  | none => fail refusal
  | some ending =>
    match ← delimited ending true with
    | none => fail refusal
    | some text =>
      match ← delimited ending false with
      | none => fail refusal
      | some replacement =>
        let parts := replacing (replacement.length + 1)
          (withBytes (replacement.length + 1) replacement)
        let start : Substitution := { sought := { expression := none }, replacement := parts }
        let (s, ignoresCase, hasLines) ←
          substitutionFlags ((← get).length + 1) start false false false
        let sought ← sought extended ignoresCase hasLines text
        let greatest := (parts.map fun
          | .group number => number
          | _ => 0).foldl max 0
        if sought.expression.any fun e => groupsOf e < greatest then
          fail (s!"invalid reference \\{greatest} on " ++ "\x60s' command's RHS")
        return .substitute { s with sought }

/-- The bytes of a text in which a backslash stands before some of them. -/
def plainBytes : Bytes → Bytes
  | 0x5C :: letter :: rest =>
    let own : Bytes := if letter = 0x6E then [Bytes.newline]
      else if letter = 0x5C then [0x5C]
      else [0x5C, letter]
    own ++ plainBytes rest
  | b :: rest => b :: plainBytes rest
  | [] => []

/-- The pairs of bytes that replace one another, behind their letter. -/
def replacedBytes : Reading Work := do
  let refusal := "unterminated \x60y' command"
  match ← next with
  | none => fail refusal
  | some ending =>
    match ← delimited ending false with
    | none => fail refusal
    | some first =>
      match ← delimited ending false with
      | none => fail refusal
      | some second =>
        let own (text : Bytes) : Bytes := plainBytes (withBytes (text.length + 1) text)
        if (own first).length ≠ (own second).length then
          fail "strings for \x60y' command are different lengths"
        endOfCommand
        return .replaceEach ((own first).zip (own second))

/-- A path behind the letter of a command. -/
def path : Reading Bytes := do
  modify fun rest => rest.dropWhile isBlank
  let text ← restOfLine
  if text.isEmpty then fail "missing filename in r/R/w/W commands"
  return text

/-- A label behind the letter of a command. -/
def label : Reading Bytes := do
  modify fun rest => rest.dropWhile isBlank
  let rest ← get
  let text := rest.takeWhile fun b => !isSpace b && b ≠ 0x3B
  set (rest.drop text.length)
  return text

/-- A number behind the letter of a command, if there is one. -/
def number? : Reading (Option Nat) := do
  modify fun rest => rest.dropWhile isBlank
  let text ← digits
  endOfCommand
  return if text.isEmpty then none else some (decimal text)

end Reading

/-- What has been read of a script: commands, of which some lead to labels, open blocks, and
labels. -/
structure Draft where
  instructions : Array Instruction := #[]
  /-- The commands that lead to labels. -/
  jumps : List (Nat × Bytes) := []
  labels : List (Bytes × Nat) := []
  /-- The commands that open blocks, innermost first. -/
  blocks : List Nat := []
  isQuiet : Bool := false

namespace Draft

def push (d : Draft) (selection : Selection) (work : Work) : Draft :=
  { d with instructions := d.instructions.push { selection, work } }

/-- The draft with a command that leads to a label, or to the end. -/
def pushJump (d : Draft) (selection : Selection) (work : Work) (label : Bytes) : Draft :=
  { d.push selection work with jumps := (d.instructions.size, label) :: d.jumps }

/-- The letters of commands that have nothing behind them. -/
def plainWork? (letter : Char) : Option Work :=
  [('d', Work.delete), ('D', .deleteLine), ('p', .print), ('P', .printLine), ('n', .next),
    ('N', .appendNext), ('g', .fetch), ('G', .appendHeld), ('h', .hold), ('H', .appendToHeld),
    ('x', .exchange), ('=', .lineNumber), ('F', .fileName), ('z', .clear)].lookup letter

/-- The draft with the command of a letter. -/
def command (d : Draft) (extended : Bool) (selection : Selection) (letter : UInt8) :
    Reading Draft := do
  let one (work : Work) : Reading Draft := return d.push selection work
  let onlyOne : Reading Unit := do
    if selection.last.isSome then Reading.fail "command only uses one address"
  match Bytes.asChar letter with
  | '\x7b' =>
    return { d.push selection (.block 0) with blocks := d.instructions.size :: d.blocks }
  | '\x7d' =>
    match d.blocks with
    | [] => Reading.fail "unexpected \x60\x7d'"
    | start :: blocks =>
      if selection.first.isSome then Reading.fail "\x7d doesn't want any addresses"
      Reading.endOfCommand
      let closed := d.push {} .nothing
      return { closed with
        instructions := closed.instructions.modify start fun opening =>
          { opening with work := .block d.instructions.size }
        blocks }
  | ':' =>
    if selection.first.isSome then Reading.fail ": doesn't want any addresses"
    let label ← Reading.label
    if label.isEmpty then Reading.fail "\":\" lacks a label"
    return { d with labels := (label, d.instructions.size) :: d.labels }
  | 'a' => one (.append (← Reading.textOfCommand))
  | 'i' => one (.insert (← Reading.textOfCommand))
  | 'c' => one (.change (← Reading.textOfCommand))
  | 's' => one (← Reading.substitution extended)
  | 'y' => one (← Reading.replacedBytes)
  | 'b' => return d.pushJump selection (.jump 0) (← Reading.label)
  | 't' => return d.pushJump selection (.jumpIfReplaced 0) (← Reading.label)
  | 'T' => return d.pushJump selection (.jumpUnlessReplaced 0) (← Reading.label)
  | 'q' =>
    onlyOne
    one (.quit ((← Reading.number?).getD 0))
  | 'Q' =>
    onlyOne
    one (.quitSilently ((← Reading.number?).getD 0))
  | 'l' => one (.list (← Reading.number?))
  | 'r' => one (.read (← Reading.path))
  | 'R' => one (.readLine (← Reading.path))
  | 'w' => one (.write (← Reading.path))
  | 'W' => one (.writeLine (← Reading.path))
  | 'v' =>
    let _ ← Reading.label
    return d
  | c =>
    match plainWork? c with
    | some work =>
      Reading.endOfCommand
      one work
    | none =>
      Reading.fail ("unknown command: \x60" ++ String.ofList [c] ++ "'")

/-- Reads the end of a range behind a comma. -/
def rangeEnd (extended : Bool) : Reading RangeEnd := do
  match ← Reading.nextFilled with
  | none => Reading.fail "unexpected \x60,'"
  | some b =>
    match ← Reading.address? extended b with
    | none =>
      Reading.fail "unexpected \x60,'"
    | some (.inl a) => return .address a
    | some (.inr rangeEnd) => return rangeEnd

/-- Reads the addresses that a byte begins, and the first byte behind them. -/
def selection (extended : Bool) (b : UInt8) : Reading (Selection × Option UInt8) := do
  match ← Reading.address? extended b with
  | none => return ({}, some b)
  | some (.inr _) => Reading.fail "invalid usage of +N or ~N as first address"
  | some (.inl first) =>
    let sign ← Reading.nextFilled
    let (last, behind) ←
      if sign = some 0x2C then do
        let last ← rangeEnd extended
        pure (some last, ← Reading.nextFilled)
      else pure (none, sign)
    let mayBeZero := match last with
      | some (.address (.having _)) => true
      | _ => false
    if first = .line 0 && !mayBeZero then Reading.fail "invalid usage of line address 0"
    return ({ first := some first, last }, behind)

/-- Reads commands up to the end of a text. The first argument bounds their number. -/
def readAll (extended : Bool) : Nat → Draft → Reading Draft
  | 0, d => return d
  | fuel + 1, d => do
    modify fun rest => rest.dropWhile fun b => isSpace b || b = 0x3B
    match ← Reading.next with
    | none => return d
    | some b =>
      let (selection, letter) ← selection extended b
      let (inverted, letter) ←
        if letter = some 0x21 then do
          let letter ← Reading.nextFilled
          if letter = some 0x21 then Reading.fail "multiple \x60!'s"
          pure (true, letter)
        else pure (false, letter)
      match letter with
      | none => Reading.fail "missing command"
      | some 0x23 =>
        if selection.first.isSome then Reading.fail "comments don't accept any addresses"
        let _ ← Reading.restOfLine
        readAll extended fuel d
      | some letter =>
        readAll extended fuel (← d.command extended { selection with inverted } letter)

/-- The script of a draft, or the label to which nothing belongs. -/
def finish (d : Draft) : Except Bytes Script := do
  let led ← d.jumps.foldlM (fun (instructions : Array Instruction) (index, label) => do
    let target ←
      if label.isEmpty then .ok instructions.size
      else
        match d.labels.lookup label with
        | some target => .ok target
        | none => .error label
    return instructions.modify index fun one =>
      { one with work := match one.work with
          | .jumpIfReplaced _ => .jumpIfReplaced target
          | .jumpUnlessReplaced _ => .jumpUnlessReplaced target
          | _ => .jump target }) d.instructions
  return { instructions := led, isQuiet := d.isQuiet }

end Draft

end Intercept.Shell.Editor
