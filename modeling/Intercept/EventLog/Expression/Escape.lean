import Intercept.EventLog.Expression.Manner

/-!
# What follows a backslash

A backslash takes the meaning from a sign, or begins a character given by its number, a kind of
characters, or a place between characters.
-/

namespace Intercept.EventLog.Expression

inductive Escape where
  /-- A character; whether it is a byte given by two digits is kept. -/
  | character (c : Char) (isByte : Bool)
  /-- The characters of a kind, or all others. -/
  | kind (isNegated : Bool)
  /-- A place, and whether it is told by the letters around it. -/
  | place (isBorder : Bool)
  deriving DecidableEq, Repr

/-- The value of a hexadecimal digit. -/
def hexDigit? (c : Char) : Option Nat :=
  if c.isDigit then some (c.toNat - 48)
  else if 'a' ≤ c ∧ c ≤ 'f' then some (c.toNat - 87)
  else if 'A' ≤ c ∧ c ≤ 'F' then some (c.toNat - 55)
  else none

/-- The character with a number, if there is one. -/
def character? (n : Nat) : Option Char :=
  if n.isValidChar then some (Char.ofNat n) else none

/-- As many digits as are asked for, and what follows them. -/
def fixedNumber? (m : Manner) : Nat → Nat → List Char → Option (Nat × List Char)
  | 0, value, text => some (value, text)
  | _ + 1, _, [] => none
  | count + 1, value, c :: rest => do
    fixedNumber? m count (16 * value + (← hexDigit? c)) (m.skip rest)

/-- The digits up to a closing brace, of which there must be one at least, and what follows it. -/
def bracedNumber? (m : Manner) : Nat → Option Nat → List Char → Option (Nat × List Char)
  | 0, _, _ => none
  | _ + 1, _, [] => none
  | fuel + 1, value, c :: rest =>
    if c = '\x7d' then value.map (·, m.skip rest)
    else do
      bracedNumber? m fuel (some (16 * value.getD 0 + (← hexDigit? c))) (m.skip rest)

/-- A character by its number, behind the letter that says how many digits it has. -/
def numbered? (m : Manner) (digits : Nat) (text : List Char) : Option (Escape × List Char) := do
  match ← m.next? text with
  | '\x7b' :: rest =>
    let inside := m.skip rest
    let (n, rest) ← bracedNumber? m (inside.length + 1) none inside
    return (.character (← character? n) false, rest)
  | text =>
    let (n, rest) ← fixedNumber? m digits 0 text
    return (.character (← character? n) (digits = 2), rest)

/-- The places that have names in braces. -/
def placeNames : List String := ["start", "end", "start-half", "end-half"]

/-- Whether a character may stand in the name of a place. -/
def isNaming (c : Char) : Bool := c.isAlpha || c = '-'

/-- The characters of a name with blanks between them, and what follows. -/
def naming (m : Manner) : Nat → List Char → List Char × List Char
  | 0, text => ([], text)
  | _ + 1, [] => ([], [])
  | fuel + 1, c :: rest =>
    if isNaming c then
      let (name, after) := naming m fuel (m.skip rest)
      (c :: name, after)
    else ([], c :: rest)

/-- What follows the border of a word: its kind in braces, if there is one. Braces around anything
but a name are left alone. -/
def afterBorder? (m : Manner) (text : List Char) : Option (List Char) :=
  match text with
  | '\x7b' :: rest => do
    let inside ← m.next? rest
    if inside.head?.any isNaming then
      match naming m (inside.length + 1) inside with
      | (name, '\x7d' :: after) =>
        if placeNames.contains (String.ofList name) then some after else none
      | _ => none
    else some text
  | _ => some text

/-- Whether a backslash leaves a sign as it is. -/
def isSign (c : Char) : Bool := c.toNat < 128 && !c.isAlphanum && c ≠ '<' && c ≠ '>'

/-- What a text behind a backslash begins with, and what follows that. -/
def escape? (m : Manner) : List Char → Option (Escape × List Char)
  | [] => none
  | c :: rest =>
    if isSign c then some (.character c false, rest)
    else
      match c with
      | 'x' => numbered? m 2 rest
      | 'u' => numbered? m 4 rest
      | 'U' => numbered? m 8 rest
      | 'd' | 's' | 'w' => some (.kind false, rest)
      | 'D' | 'S' | 'W' => some (.kind true, rest)
      | 'a' => some (.character '\x07' false, rest)
      | 'f' => some (.character '\x0c' false, rest)
      | 't' => some (.character '\t' false, rest)
      | 'n' => some (.character '\n' false, rest)
      | 'r' => some (.character '\r' false, rest)
      | 'v' => some (.character '\x0b' false, rest)
      | 'A' | 'z' => some (.place false, rest)
      | 'b' => (afterBorder? m rest).map (.place true, ·)
      | 'B' | '<' | '>' => some (.place true, rest)
      | _ => none

end Intercept.EventLog.Expression
