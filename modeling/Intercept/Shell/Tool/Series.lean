import Intercept.Shell.Format
import Intercept.Shell.Tool.Usage

/-!
# Series of numbers

The tool that writes numbers from a first one to a last one. They are decimals, and have as many
places as the first one and the step have.
-/

namespace Intercept.Shell.Tool

/-- A decimal: a whole number of the smallest units that so many places can hold. -/
structure Decimal where
  units : Int
  places : Nat := 0
  /-- How many bytes its text has. -/
  width : Nat := 0
  deriving DecidableEq, Repr

namespace Decimal

/-- The decimal that a word names. -/
def read? (word : Bytes) : Option Decimal :=
  let text := word.dropWhile isSpace
  let (isNegative, digits) := match text with
    | 0x2D :: rest => (true, rest)
    | 0x2B :: rest => (false, rest)
    | rest => (false, rest)
  let (whole, fraction) := Bytes.breakAt 0x2E digits
  let places := (fraction.getD []).length
  let signed (n : Nat) : Int := if isNegative then -(n : Int) else n
  let width := digits.length + (if isNegative then 1 else 0) -
    (if fraction = some [] then 1 else 0) + (if whole.isEmpty then 1 else 0)
  let all := whole ++ fraction.getD []
  if !all.isEmpty && all.all isDigit then some { units := signed (decimal all), places, width }
  else
    match Real.read .extended text with
    | some (.finite isNegative mantissa exponent, _, []) =>
      let divisor := Nat.pow 2 (-exponent).toNat
      let n := mantissa * Nat.pow 2 exponent.toNat / divisor
      if mantissa % divisor ≠ 0 then none
      else
        let units : Int := if isNegative then -(n : Int) else n
        some { units, width := (integerText units).length }
    | _ => none

/-- The units of the decimal if there are so many places at least. -/
def scaled (d : Decimal) (places : Nat) : Int := d.units * Nat.pow 10 (places - d.places)

end Decimal

/-- The text of so many units with some places. -/
def decimalText (places : Nat) (units : Int) : Bytes :=
  let digits := digitsOf units.natAbs
  let padded := List.replicate (places + 1 - digits.length) 0x30 ++ digits
  let whole := padded.take (padded.length - places)
  (if units < 0 then [0x2D] else []) ++ whole ++
    if places = 0 then [] else 0x2E :: padded.drop whole.length

/-- A text with zeros behind its sign, so that it has a width. -/
def zeroPadded (width : Nat) (text : Bytes) : Bytes :=
  let zeros : Bytes := List.replicate (width - text.length) 0x30
  match text with
  | 0x2D :: digits => 0x2D :: zeros ++ digits
  | digits => zeros ++ digits

structure Series where
  first : Decimal
  step : Decimal
  last : Decimal

namespace Series

/-- The numbers of the series as units, with their places, of which the last one may have more. -/
def numbers (s : Series) : Nat × List Int :=
  let places := max s.first.places s.step.places
  let finest := max places s.last.places
  let (first, step, last) := (s.first.scaled finest, s.step.scaled finest, s.last.scaled finest)
  let count := if step = 0 then 0 else (last - first).fdiv step + 1
  let factor : Int := Nat.pow 10 (finest - places)
  (places, (List.range count.toNat).map fun (n : Nat) => (first + n * step) / factor)

/-- The width of all numbers where they are to have the same. -/
def width (s : Series) : Nat :=
  let places := max s.first.places s.step.places
  let point (d : Decimal) : Nat := if d.places = 0 && 0 < places then 1 else 0
  let first := s.first.width + (places - s.first.places) + point s.first
  let last := s.last.width + places - s.last.places + point s.last -
    (if 0 < s.last.places && places = 0 then 1 else 0)
  max first last

end Series

/-- Whether a word is an operand although it begins with a minus sign. -/
def isNegativeNumber (word : Bytes) : Bool :=
  match word with
  | 0x2D :: b :: _ => isDigit b || b = 0x2E
  | _ => false

/-- What is wrong with a format of numbers, if anything is: it must have one place for a number. -/
def formatFlaw? (format : Bytes) : Option Bytes :=
  let rec directives : Nat → Bytes → List Bytes
    | 0, _ => []
    | _, [] => []
    | fuel + 1, 0x25 :: 0x25 :: rest => directives fuel rest
    | fuel + 1, 0x25 :: rest =>
      let behind := rest.dropWhile fun b =>
        isDigit b || (Bytes.ofString "-+#0 '.").contains b
      behind :: directives fuel behind
    | fuel + 1, _ :: rest => directives fuel rest
  let refusal (why : String) : Option Bytes :=
    some (Bytes.ofString "format " ++ quotedText format ++ Bytes.ofString s!" {why}")
  match directives (format.length + 1) format with
  | [] => refusal "has no % directive"
  | [] :: _ => refusal "ends in %"
  | (letter :: _) :: others =>
    if !(Bytes.ofString "efgaEFGA").contains letter then
      some (Bytes.ofString "format " ++ quotedText format ++ Bytes.ofString " has unknown %" ++
        letter :: Bytes.ofString " directive")
    else if !others.isEmpty then refusal "has too many % directives"
    else none

/-- Why a word is no number for a series. -/
def notANumber (word : Bytes) : Bytes :=
  match Real.read .extended (word.dropWhile isSpace) with
  | some (.notANumber _, _, []) =>
    Bytes.ofString "invalid 'not-a-number' argument: " ++ quotedText word
  | _ => Bytes.ofString "invalid floating point argument: " ++ quotedText word

/-- The series that operands ask for, or what is wrong with them. -/
def seriesOf (operands : List Bytes) : Except Bytes Series := do
  let one : Decimal := { units := 1, width := 1 }
  let number (word : Bytes) : Except Bytes Decimal :=
    match Decimal.read? word with
    | some d => .ok d
    | none => .error (notANumber word)
  match operands with
  | [last] => return { first := one, step := one, last := ← number last }
  | [first, last] => return { first := ← number first, step := one, last := ← number last }
  | first :: step :: last :: _ =>
    let (first, own) := (← number first, ← number step)
    if own.units = 0 then
      throw (Bytes.ofString "invalid Zero increment value: " ++ quotedText step)
    return { first, step := own, last := ← number last }
  | [] => throw (Bytes.ofString "missing operand")

/-- Writes a series. -/
def writeSeries (use : Use) : Action Nat := do
  if let some extra := use.operands[3]? then
    refuseUse (Bytes.ofString "extra operand " ++ quotedText extra)
    return 1
  if let some message := if use.operands.isEmpty then none
      else (use.argument? 'f').bind formatFlaw? then
    remark message
    return 1
  match seriesOf use.operands with
  | .error message =>
    refuseUse message
    return 1
  | .ok series =>
    let (places, numbers) := series.numbers
    let plain (n : Int) : Bytes :=
      let text := decimalText places n
      if use.has 'w' then zeroPadded series.width text else text
    let texts ← match use.argument? 'f' with
      | none => pure (numbers.map plain)
      | some format =>
        numbers.mapM fun n => do
          return (← Format.printf .tool format [decimalText places n]).output
    let separator := (use.argument? 's').getD [Bytes.newline]
    let line := texts.intersperse separator |>.flatten
    if texts.isEmpty then return 0
    return if ← emit (line ++ [Bytes.newline]) then 0 else 1

/-- Writes numbers from a first one to a last one. -/
def seq (words : List Bytes) : Action Nat :=
  let known : Use.Known :=
    { letters := "f:s:w"
      names := [("equal-width", 'w'), ("format", 'f'), ("separator", 's')] }
  withFront known 1 writeSeries words isNegativeNumber

end Intercept.Shell.Tool
