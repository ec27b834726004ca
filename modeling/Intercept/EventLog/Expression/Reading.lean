import Intercept.EventLog.Expression.Class
import Intercept.EventLog.Expression.Group
import Intercept.EventLog.Expression.Repetition

/-!
# Reading an expression

An expression is a choice between rows of pieces. A piece is a character, a set, a place or a group,
and may be repeated. Read are its depth and whether it looks for the border of a word of all
scripts. An expression that does cannot be matched a byte at a time, so it is refused, as one is
that is too deep. What an expression matches is of no concern here.
-/

namespace Intercept.EventLog.Expression

/-- What is known of a part of an expression. -/
structure Piece where
  depth : Nat := 0
  findsBorder : Bool := false
  /-- Whether it only sets flags. -/
  isFlags : Bool := false
  deriving DecidableEq, Repr

/-- Several parts that lie one level below what holds them. -/
def Piece.together : List Piece → Piece
  | [] => {}
  | [piece] => piece
  | pieces =>
    { depth := (pieces.map Piece.depth).foldl max 0 + 1
      findsBorder := pieces.any Piece.findsBorder }

/-- A choice that is being read: the rows before, and the row in which the reader is, each with its
last part first. -/
structure Choice where
  rows : List Piece := []
  row : List Piece := []
  deriving DecidableEq, Repr

/-- The choice as one part. -/
def Choice.whole (choice : Choice) : Piece :=
  Piece.together (Piece.together choice.row :: choice.rows)

/-- A group in which the reader is: how to go on behind it, and what it stands in. -/
structure Enclosing where
  manner : Manner
  choice : Choice
  deriving DecidableEq, Repr

/-- Where a reader stands. -/
structure Reader where
  manner : Manner := {}
  names : List String := []
  enclosing : List Enclosing := []
  choice : Choice := {}
  deriving DecidableEq, Repr

namespace Reader

/-- The reader behind a part. -/
def past (r : Reader) (piece : Piece) : Reader :=
  { r with choice := { r.choice with row := piece :: r.choice.row } }

/-- The reader at the beginning of another row. -/
def atRow (r : Reader) : Reader :=
  { r with choice := { rows := Piece.together r.choice.row :: r.choice.rows } }

/-- The reader behind the repetition of the last part; there must be one, and not only flags. -/
def repeated? (r : Reader) (times : Times) : Option Reader :=
  match r.choice.row with
  | [] => none
  | last :: row =>
    if last.isFlags then none
    else
      let piece : Piece :=
        { depth := last.depth + 1, findsBorder := last.findsBorder && times.most ≠ some 0 }
      some { r with choice := { r.choice with row := piece :: row } }

/-- The reader behind what begins with an opening bracket. Groups differ in their names. -/
def opened? (r : Reader) : Opening → Option Reader
  | .flags manner => some { r.past { isFlags := true } with manner }
  | .group name inside =>
    if name.any r.names.contains then none
    else some
      { manner := inside
        names := name.toList ++ r.names
        enclosing := ⟨r.manner, r.choice⟩ :: r.enclosing }

/-- The reader behind the end of a group. -/
def closed? (r : Reader) : Option Reader :=
  match r.enclosing with
  | [] => none
  | outer :: enclosing =>
    let piece : Piece :=
      { depth := r.choice.whole.depth + 1, findsBorder := r.choice.whole.findsBorder }
    some ({ r with manner := outer.manner, enclosing, choice := outer.choice }.past piece)

/-- The reader behind what a backslash begins. -/
def escaped? (r : Reader) : Escape → Option Reader
  | .character c isByte => if r.manner.admits c isByte then some (r.past {}) else none
  | .kind isNegated => if r.manner.admitsKind isNegated then some (r.past {}) else none
  | .place isBorder => some (r.past { findsBorder := isBorder && r.manner.allScripts })

/-- What follows a sign of repetition. A question mark behind it asks for few instead of many. -/
def afterRepetition : List Char → List Char
  | '?' :: rest => rest
  | rest => rest

/-- The reader at the end of the text, if it is an expression from here on. -/
def finish? : Nat → Reader → List Char → Option Reader
  | 0, _, _ => none
  | fuel + 1, r, text =>
    match r.manner.skip text with
    | [] => if r.enclosing.isEmpty then some r else none
    | '(' :: rest => do
      let (opening, rest) ← opening? r.manner rest
      finish? fuel (← r.opened? opening) rest
    | ')' :: rest => do finish? fuel (← r.closed?) rest
    | '|' :: rest => finish? fuel r.atRow rest
    | '[' :: rest => do
      let (extent, rest) ← set? r.manner (2 * rest.length + 2) rest
      finish? fuel (r.past { depth := extent.depth }) rest
    | '*' :: rest | '+' :: rest => do
      finish? fuel (← r.repeated? ⟨0, none⟩) (afterRepetition rest)
    | '?' :: rest => do finish? fuel (← r.repeated? ⟨0, some 1⟩) (afterRepetition rest)
    | '\x7b' :: rest => do
      let (times, rest) ← repetition? r.manner rest
      finish? fuel (← r.repeated? times) (afterRepetition (r.manner.skip rest))
    | '\\' :: rest => do
      let (escape, rest) ← escape? r.manner rest
      finish? fuel (← r.escaped? escape) rest
    | '.' :: rest => if r.manner.allScripts then finish? fuel (r.past {}) rest else none
    | '^' :: rest | '$' :: rest => finish? fuel (r.past {}) rest
    | c :: rest => do finish? fuel (← r.escaped? (.character c false)) rest

end Reader

/-- How deep an expression may be. -/
def depthLimit : Nat := 250

/-- Whether a text is an expression that can be looked for. -/
def isExpression (text : List Char) : Bool :=
  match Reader.finish? (text.length + 1) {} text with
  | none => false
  | some r => r.choice.whole.depth ≤ depthLimit && !r.choice.whole.findsBorder

end Intercept.EventLog.Expression
