import Intercept.Shell.Pattern
import Intercept.Shell.Regular.Basic

/-!
# Reading regular expressions

An expression is a choice between rows of pieces, each of which may be repeated. In the basic
dialect most signs have their meaning behind a backslash only, and some only where it makes sense: a
star not at the beginning, and the signs for the ends of a line only there.
-/

namespace Intercept.Shell.Regular

/-- The rows that are being read, and the row in which the reader is, last piece first. -/
structure Level where
  rows : List Regular := []
  row : List Regular := []
  deriving Repr

/-- Pieces, last first, one behind the other. -/
def ofRow : List Regular → Regular
  | [] => .nothing
  | [piece] => piece
  | last :: others => .behind (ofRow others) last

/-- The choice between the rows of a level. -/
def Level.whole (level : Level) : Regular :=
  level.rows.foldl (fun choice row => .either row choice) (ofRow level.row)

/-- Where a reader stands: in a group inside others, each with its number. -/
structure State where
  level : Level := {}
  outer : List (Nat × Level) := []
  groups : Nat := 0
  /-- The groups that have been closed. -/
  closed : List Nat := []
  deriving Repr

namespace State

def push (s : State) (piece : Regular) : State :=
  { s with level := { s.level with row := piece :: s.level.row } }

/-- Whether the row has no piece apart from signs for the start of a line. -/
def isAtStart (s : State) : Bool := s.level.row.all (· = .edge .lineStart)

/-- Whether the last piece of the row is a repetition. -/
def isRepeated (s : State) : Bool :=
  match s.level.row with
  | .repeated .. :: _ => true
  | _ => false

def opened (s : State) : State :=
  { s with level := {}, outer := (s.groups + 1, s.level) :: s.outer, groups := s.groups + 1 }

def closeGroup (s : State) : Except RegularFlaw State :=
  match s.outer with
  | [] => .error .closedGroup
  | (number, level) :: outer =>
    .ok ({ s with level, outer, closed := number :: s.closed }.push
      (.group number s.level.whole))

def atNextRow (s : State) : State :=
  { s with level := { rows := ofRow s.level.row :: s.level.rows } }

/-- Repeats the last piece. -/
def repeatLast (s : State) (least : Nat) (most : Option Nat) : State :=
  match s.level.row with
  | [] => s
  | last :: row => { s with level := { s.level with row := .repeated least most last :: row } }

end State

/-- The greatest number of repetitions that can be asked for. -/
def repetitionLimit : Nat := 32767

/-- An interval of numbers up to its closing brace, which stands behind a backslash in the basic
dialect, and what follows it. -/
def interval (extended : Bool) (text : Bytes) :
    Except RegularFlaw (Nat × Option Nat × Bytes) := do
  let (first, rest) := text.span isDigit
  let (second, rest) : Option Bytes × Bytes := match rest with
    | 0x2C :: rest => (some (rest.takeWhile isDigit), rest.dropWhile isDigit)
    | rest => (none, rest)
  let rest ← match extended, rest with
    | true, 0x7D :: rest => .ok rest
    | false, 0x5C :: 0x7D :: rest => .ok rest
    | _, [] => .error .openInterval
    | _, _ => .error .badInterval
  if first.isEmpty && second.isNone then .error .badInterval
  let least := decimal first
  let most := match second with
    | none => some least
    | some [] => none
    | some digits => some (decimal digits)
  if repetitionLimit < max least (most.getD 0) then .error .tooLarge
  if most.any (· < least) then .error .badInterval
  return (least, most, rest)

/-- A member of a set in brackets: the byte, or the ranges of a named class, and what follows. -/
def member (text : Bytes) : Except RegularFlaw ((UInt8 ⊕ List (UInt8 × UInt8)) × Bytes) :=
  let named (sign : UInt8) (rest : Bytes) : Option (Bytes × Bytes) :=
    let lengths := List.range rest.length
    (lengths.find? fun n => rest[n]? = some sign && rest[n + 1]? = some 0x5D).map fun n =>
      (rest.take n, rest.drop (n + 2))
  match text with
  | 0x5B :: sign :: rest =>
    if sign = 0x3A || sign = 0x2E || sign = 0x3D then
      match named sign rest with
      | none => .error .openBracket
      | some (name, rest) =>
        if sign = 0x3A then
          match namedSets.find? fun (known, _) => Bytes.ofString known = name with
          | some (_, ranges) => .ok (.inr ranges, rest)
          | none => .error .unknownClass
        else
          match name with
          | [b] => .ok (.inl b, rest)
          | _ => .error .unknownClass
    else .ok (.inl 0x5B, sign :: rest)
  | b :: rest => .ok (.inl b, rest)
  | [] => .error .openBracket

/-- The ranges of a set up to its closing bracket, and what follows it. A bracket at the beginning
belongs to the set. The first argument bounds the number of members. -/
def ranges : Nat → (isFirst : Bool) → Bytes → Except RegularFlaw (List (UInt8 × UInt8) × Bytes)
  | 0, _, _ => .error .openBracket
  | fuel + 1, isFirst, text => do
    match isFirst, text with
    | _, [] => .error .openBracket
    | false, 0x5D :: rest => return ([], rest)
    | _, text =>
      let (first, rest) ← member text
      let (own, rest) ← match first, rest with
        | .inl low, 0x2D :: 0x5D :: _ => pure ([(low, low)], rest)
        | .inl low, 0x2D :: after =>
          match ← member after with
          | (.inl high, after) =>
            if high < low then .error .badRange else pure ([(low, high)], after)
          | (.inr _, _) => .error .badRange
        | .inl low, rest => pure ([(low, low)], rest)
        | .inr own, rest => pure (own, rest)
      let (others, rest) ← ranges fuel false rest
      return (own ++ others, rest)

/-- A set in brackets, behind the opening one, and what follows it. -/
def bracket (text : Bytes) : Except RegularFlaw (ByteSet × Bytes) := do
  let inverted := text.head? = some 0x5E
  if (if inverted then text.drop 1 else text).isEmpty then throw .emptyBracket
  let (ranges, rest) ← ranges (text.length + 1) true (if inverted then text.drop 1 else text)
  return ({ ranges, inverted }, rest)

/-- The bytes of words, and blanks of all kinds. -/
def wordSet (inverted : Bool) : ByteSet :=
  { ranges := [(0x30, 0x39), (0x41, 0x5A), (0x5F, 0x5F), (0x61, 0x7A)], inverted }

def blankSet (inverted : Bool) : ByteSet :=
  { ranges := [(0x09, 0x0D), (0x20, 0x20)], inverted }

/-- What a letter stands for behind a backslash in both dialects. -/
def escaped (letter : UInt8) : Regular :=
  match Bytes.asChar letter with
  | 'w' => .one (wordSet false)
  | 'W' => .one (wordSet true)
  | 's' => .one (blankSet false)
  | 'S' => .one (blankSet true)
  | 'b' => .edge (.word true)
  | 'B' => .edge (.word false)
  | '<' => .edge .wordStart
  | '>' => .edge .wordEnd
  | '`' => .edge .textStart
  | '\'' => .edge .textEnd
  | _ => .one (.exactly letter)

/-- What a sign of an expression means where it has a meaning of its own. -/
inductive Sign where
  | openGroup
  | closeGroup
  | nextRow
  | interval
  | repetition (least : Nat) (most : Option Nat)

/-- The meaning of a sign that stands alone, or behind a backslash. -/
def sign? (d : RegularDialect) (escaped : Bool) (b : UInt8) : Option Sign :=
  match Bytes.asChar b with
  | '*' => if escaped then none else some (.repetition 0 none)
  | c =>
    if d.extended = escaped then none
    else
      match c with
      | '(' => some .openGroup
      | ')' => some .closeGroup
      | '|' => some .nextRow
      | '\x7b' => some .interval
      | '+' => some (.repetition 1 none)
      | '?' => some (.repetition 0 (some 1))
      | _ => none

/-- Takes up a sign, with what follows it. -/
def take (d : RegularDialect) (s : State) (b : UInt8) (rest : Bytes) :
    Sign → Except RegularFlaw (State × Bytes)
  | .openGroup => .ok (s.opened, rest)
  | .closeGroup =>
    if s.outer.isEmpty && d.extended && !d.strict then .ok (s.push (.one (.exactly b)), rest)
    else s.closeGroup.map (·, rest)
  | .nextRow => .ok (s.atNextRow, rest)
  | .repetition least most =>
    if !d.extended && d.strict && s.isRepeated then .error .nothingRepeated
    else if !s.isAtStart || (d.extended && !s.level.row.isEmpty) then
      .ok (s.repeatLast least most, rest)
    else if !d.extended then .ok (s.push (.one (.exactly b)), rest)
    else if d.strict then .error .nothingRepeated
    else .ok (s, rest)
  | .interval =>
    match interval d.extended rest with
    | .ok (least, most, after) =>
      if !d.extended && d.strict && s.isRepeated then .error .nothingRepeated
      else if s.level.row.isEmpty then
        if d.extended && !d.strict then .ok (s, after) else .error .nothingRepeated
      else .ok (s.repeatLast least most, after)
    | .error flaw =>
      if d.extended && !d.strict then .ok (s.push (.one (.exactly b)), rest) else .error flaw

/-- Reads the rest of an expression. The first argument bounds the number of pieces. -/
def readFrom (d : RegularDialect) : Nat → State → Bytes → Except RegularFlaw Regular
  | 0, _, _ => .error .tooLarge
  | _ + 1, s, [] => if s.outer.isEmpty then .ok s.level.whole else .error .openGroup
  | _ + 1, _, [0x5C] => .error .trailingBackslash
  | fuel + 1, s, 0x5C :: b :: rest => do
    match sign? d true b with
    | some sign =>
      let (s, rest) ← take d s b rest sign
      readFrom d fuel s rest
    | none =>
      if isDigit b && b ≠ 0x30 then
        let number := b.toNat - 48
        if s.closed.contains number then readFrom d fuel (s.push (.again number)) rest
        else .error .unknownGroup
      else readFrom d fuel (s.push (escaped b)) rest
  | fuel + 1, s, 0x5B :: rest => do
    let (set, rest) ← bracket rest
    readFrom d fuel (s.push (.one set)) rest
  | fuel + 1, s, b :: rest => do
    match sign? d false b with
    | some sign =>
      let (s, rest) ← take d s b rest sign
      readFrom d fuel s rest
    | none =>
      let isLast := rest.isEmpty || (Bytes.ofString "\\)").isPrefixOf rest ||
        (Bytes.ofString "\\|").isPrefixOf rest
      let piece : Regular := match Bytes.asChar b with
        | '.' => .one .all
        | '^' => if d.extended || s.isAtStart then .edge .lineStart else .one (.exactly b)
        | '$' => if d.extended || isLast then .edge .lineEnd else .one (.exactly b)
        | _ => .one (.exactly b)
      readFrom d fuel (s.push piece) rest

/-- The expression that a text is. -/
def read (d : RegularDialect) (text : Bytes) : Except RegularFlaw Regular :=
  readFrom d (text.length + 1) {} text

/-- The expression that matches a text itself. -/
def ofText (text : Bytes) : Regular :=
  ofRow (text.reverse.map fun b => .one (.exactly b))

end Intercept.Shell.Regular
