import Intercept.Event
import Intercept.EventLog.ValuePattern
import Intercept.Text.Characters
import Intercept.Text.Utf8

/-!
# Directives

A directive says how much is shown of some events: `level`, `part`, `part=level`, and
`part[span{field}]=level` with any of the pieces left out. A directive without a level shows
everything that it is about.
-/

namespace Intercept.EventLog

/-- The greatest rank that is shown, or nothing. -/
abbrev Threshold := Option Level

/-- The threshold of a number: none at zero, and one level more for each one after it. -/
def Threshold.ofNumber? : Nat → Option Threshold
  | 0 => some none
  | n + 1 => (Level.all[n]?).map some

/-- The number in decimal digits, which may have leading zeros and a plus sign. -/
def number? (text : String) : Option Nat :=
  let digits := match text.toList with
    | '+' :: rest => rest
    | chars => chars
  if !digits.isEmpty && digits.all Char.isDigit then
    some (digits.foldl (fun n d => 10 * n + (d.toNat - 48)) 0)
  else none

/-- A threshold by its number or by its name; case does not count. -/
def Threshold.ofText? (text : String) : Option Threshold :=
  match (number? text).bind Threshold.ofNumber? with
  | some threshold => some threshold
  | none =>
    if text.toLower = "off" then some none else (Level.ofName? text.toLower).map some

/-- What is shown of the events from the parts whose names begin with `target`, or from all
parts, that have the fields; a directive about a span or about a field's value leaves events
alone. -/
structure Directive where
  target : Option String
  span : Option String
  fields : List (String × Option String)
  threshold : Threshold
  deriving DecidableEq, Repr

namespace Directive

/-- A directive about all events. -/
def plain (threshold : Threshold) : Directive := ⟨none, none, [], threshold⟩

/-- A directive about everything from some parts. -/
def about (target : String) : Directive := ⟨some target, none, [], some .trace⟩

/-- A field, and the value that it is to have. -/
def field? (text : String) : Option (String × Option String) :=
  match text.splitOn "=" with
  | [] => none
  | [name] => if name.isEmpty then none else some (name, none)
  | name :: value :: _ =>
    if ValuePattern.isValid value.toList then some (name, some value) else none

/-- The directive with the level that follows an equals sign; all levels if that is empty. -/
def withLevel? (d : Directive) (level : String) : Option Directive :=
  if level.isEmpty then some d
  else (Threshold.ofText? level).map ({ d with threshold := · })

/-- A directive that is a single word: a level, or else a part of the program. -/
def ofWord (word : String) : Directive :=
  match Threshold.ofText? word with
  | some threshold => plain threshold
  | none => about word

/-- A directive's first character. -/
def isOpening (c : Char) : Bool :=
  c = '[' || c = '-' || c = ':' || c = '_' || Characters.isAlphanumeric c

/-- How far a directive has been read, and where what is being read began. -/
inductive Stage where
  | atStart
  | inWord (start : Nat)
  | inSpan (start : Nat)
  | inField (start : Nat)
  | afterField
  | afterBrackets
  | inLevel (start : Nat)
  deriving DecidableEq, Repr

/-- Why a text is no directive. -/
inductive Flaw where
  /-- It does not have the form of one. -/
  | malformed
  /-- A piece of it would begin or end inside a character. -/
  | dividedCharacter
  deriving DecidableEq, Repr

/-- Whether no character is divided before a byte of a text. -/
def isBoundary (text : Bytes) (i : Nat) : Bool :=
  match text.drop i with
  | [] => true
  | b :: _ => b &&& 0xC0 ≠ 0x80

/-- The piece of a text between two places. -/
def piece (text : Bytes) (start stop : Nat) : Except Flaw String :=
  if isBoundary text start && isBoundary text stop then
    .ok (Utf8.text ((text.drop start).take (stop - start)))
  else .error .dividedCharacter

/-- What is there, or else the text is malformed. -/
def orMalformed {α : Type} : Option α → Except Flaw α
  | some a => .ok a
  | none => .error .malformed

/-- The next stage behind a character at a place. Pieces are cut out of `text`. -/
def step (text : Bytes) (i : Nat) (c : Char) : Stage × Directive → Except Flaw (Stage × Directive)
  | (.atStart, d) =>
    if c = '[' then .ok (.inSpan (i + 1), d)
    else if isOpening c then .ok (.inWord i, d)
    else .error .malformed
  | (.inWord start, d) => do
    if c = '=' then return (.inLevel (i + 1), { d with target := some (← piece text start i) })
    else if c = '[' then
      return (.inSpan (i + 1), { d with target := some (← piece text start i) })
    else return (.inWord start, d)
  | (.inSpan start, d) => do
    if c = ']' then return (.afterBrackets, { d with span := some (← piece text start i) })
    else if c = '\x7b' then
      let name ← piece text start i
      return (.inField (i + 1), { d with span := if name.isEmpty then none else some name })
    else return (.inSpan start, d)
  | (.inField start, d) => do
    if c = '\x7d' then
      let read ← orMalformed (field? (← piece text start i))
      return (.afterField, { d with fields := [read] })
    else return (.inField start, d)
  | (.afterField, d) => if c = ']' then .ok (.afterBrackets, d) else .error .malformed
  | (.afterBrackets, d) => if c = '=' then .ok (.inLevel (i + 1), d) else .error .malformed
  | (.inLevel start, d) => .ok (.inLevel start, d)

/-- The directive that has been read when its text ends. -/
def finish (text : Bytes) : Stage × Directive → Except Flaw Directive
  | (.inWord start, _) => (piece text start text.length).map ofWord
  | (.inLevel start, d) => do orMalformed (d.withLevel? (← piece text start text.length))
  | (.afterBrackets, d) => .ok d
  | _ => .error .malformed

/-- Reads characters that begin at a place, and ends. -/
def readFrom (text : Bytes) (i : Nat) (state : Stage × Directive) :
    List Char → Except Flaw Directive
  | [] => finish text state
  | c :: rest => do readFrom text (i + c.utf8Size) (← step text i c state) rest

/-- The text without the blanks around it. -/
def trimmed (text : String) : List Char :=
  let body := text.toList.dropWhile Characters.isBlank
  (body.reverse.dropWhile Characters.isBlank).reverse

/-- A directive from its text. It is read without the blanks around it, but its pieces are counted
from the beginning of the whole text, so that blanks before it move them. -/
def ofText (text : String) : Except Flaw Directive :=
  readFrom (Bytes.ofString text) 0 (.atStart, plain (some .trace)) (trimmed text)

/-- How much of a name the directive determines; one without a name determines less than any. -/
def reach (d : Directive) : Nat := (d.target.map (·.length + 1)).getD 0

/-- Whether the directive decides on such an event. -/
def isAbout (d : Directive) (event : Event) : Bool :=
  d.span.isNone &&
  (match d.target with
    | none => true
    | some start => start.toList.isPrefixOf event.target.toList) &&
  d.fields.all fun (name, value) => value.isNone && event.fieldNames.contains name

/-- Whether a name stands before another in the order of their characters. -/
def isBefore (name other : String) : Bool :=
  name.toList.lex other.toList fun c d => c.toNat < d.toNat

/-- Whether a directive yields to another about the same event: the longer name decides, then the
greater number of fields, then the later name of a field. -/
def yieldsTo (d other : Directive) : Bool :=
  if d.reach ≠ other.reach then d.reach < other.reach
  else if d.fields.length ≠ other.fields.length then d.fields.length < other.fields.length
  else !(other.fields.map Prod.fst).lex (d.fields.map Prod.fst) isBefore

end Directive

end Intercept.EventLog
