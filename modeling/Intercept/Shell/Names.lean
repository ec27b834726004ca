import Intercept.Bytes

/-!
# Names and numbers of the command language

The bytes that names, numbers and blanks are made of.
-/

namespace Intercept.Shell

def isDigit (b : UInt8) : Bool := 0x30 ≤ b && b ≤ 0x39

def isNameStart (b : UInt8) : Bool :=
  (0x41 ≤ b && b ≤ 0x5A) || (0x61 ≤ b && b ≤ 0x7A) || b = 0x5F

def isNameByte (b : UInt8) : Bool := isNameStart b || isDigit b

def isBlank (b : UInt8) : Bool := b = Bytes.space || b = Bytes.tab

/-- Whether a byte may stand around a number. -/
def isSpace (b : UInt8) : Bool := b = Bytes.space || (0x09 ≤ b && b ≤ 0x0D)

/-- Whether the bytes are a name: a letter or an underscore, and then digits too. -/
def isName (bytes : Bytes) : Bool :=
  match bytes with
  | [] => false
  | b :: rest => isNameStart b && rest.all isNameByte

/-- The value of decimal digits. -/
def decimal (digits : Bytes) : Nat := digits.foldl (fun n b => 10 * n + (b.toNat - 48)) 0

/-- The value of a digit, up to the hexadecimal ones. -/
def digitValue (b : UInt8) : Nat :=
  if isDigit b then b.toNat - 48
  else if 0x61 ≤ b && b ≤ 0x66 then b.toNat - 87
  else if 0x41 ≤ b && b ≤ 0x46 then b.toNat - 55
  else 99

/-- The value of the digits of a base. -/
def digitsValue (base : Nat) (digits : Bytes) : Nat :=
  digits.foldl (fun n b => n * base + digitValue b) 0

/-- The number that the bytes are the digits of. -/
def number? (bytes : Bytes) : Option Nat :=
  if !bytes.isEmpty && bytes.all isDigit then some (decimal bytes) else none

/-- The integer that the bytes are the digits of, behind a sign if there is one, and with blanks
around them. -/
def integer? (bytes : Bytes) : Option Int :=
  let text := bytes.dropWhile isSpace
  let (isNegative, unsigned) := match text with
    | 0x2D :: rest => (true, rest)
    | 0x2B :: rest => (false, rest)
    | rest => (false, rest)
  let (digits, rest) := unsigned.span isDigit
  if digits.isEmpty || !rest.all isSpace then none
  else some (if isNegative then -(decimal digits : Int) else decimal digits)

/-- The greatest number that a count or a status may be given by. -/
def countLimit : Nat := 2147483647

/-- A number that is not negative, and small enough for a count or a status. -/
def count? (bytes : Bytes) : Option Nat :=
  (integer? bytes).bind fun n => if 0 ≤ n ∧ n ≤ countLimit then some n.toNat else none

/-- The digits of a number. -/
def digitsOf (n : Nat) : Bytes := Bytes.ofString (toString n)

/-- The digits of an integer, behind a minus sign where it is negative. -/
def integerText (n : Int) : Bytes := Bytes.ofString (toString n)

/-- The bytes up to the first that fails, and the others. -/
def nameAtFront (bytes : Bytes) : Bytes × Bytes :=
  match bytes with
  | b :: _ => if isNameStart b then bytes.span isNameByte else ([], bytes)
  | [] => ([], [])

/-- The name in front of an equals sign, and what stands behind it. -/
def assignment? (bytes : Bytes) : Option (Bytes × Bytes) :=
  match nameAtFront bytes with
  | (_ :: _, []) => none
  | (name@(_ :: _), b :: value) => if b = Bytes.equalsSign then some (name, value) else none
  | _ => none

end Intercept.Shell
