import Intercept.Shell.Arithmetic

/-!
# Numbers with a point

Numbers are read from decimal or hexadecimal text, rounded to a binary form with a fixed number of
digits, and written with as many decimal places as are asked for. Rounding is exact, and of two
numbers that are equally near the even one is taken.
-/

namespace Intercept.Shell

/-- A binary form: the number of its digits, the exponent of the last digit of the least number, and
that of the first power of two that is too great. -/
structure BinaryForm where
  digits : Nat
  lowest : Int
  limit : Nat
  /-- The number of digits in front of the point in hexadecimal text. -/
  leading : Nat
  deriving DecidableEq, Repr

namespace BinaryForm

/-- The form with 53 digits. -/
def double : BinaryForm := ⟨53, -1074, 1024, 1⟩

/-- The form with 64 digits. -/
def extended : BinaryForm := ⟨64, -16445, 16384, 4⟩

end BinaryForm

/-- A number: a multiple of a power of two, or none. -/
inductive Real where
  | finite (negative : Bool) (mantissa : Nat) (exponent : Int)
  | infinite (negative : Bool)
  | notANumber (negative : Bool)
  deriving DecidableEq, Repr

namespace Real

def zero : Real := finite false 0 0

def isNegative : Real → Bool
  | finite negative _ _ => negative
  | infinite negative => negative
  | notANumber negative => negative

/-- The whole number nearest to a quotient. -/
def nearest (numerator denominator : Nat) : Nat :=
  let q := numerator / denominator
  let twice := 2 * (numerator % denominator)
  if denominator < twice ∨ (twice = denominator ∧ q % 2 = 1) then q + 1 else q

/-- A quotient times a power of a base. -/
def scaled (base : Nat) (exponent : Int) (numerator denominator : Nat) : Nat × Nat :=
  if 0 ≤ exponent then (numerator * base.pow exponent.toNat, denominator)
  else (numerator, denominator * base.pow (-exponent).toNat)

/-- The number of the form that is nearest to a quotient, and whether it lies within the range of
the form. -/
def ofQuotient (form : BinaryForm) (negative : Bool) (numerator denominator : Nat) :
    Real × Bool :=
  if numerator = 0 then (finite negative 0 0, true)
  else
    let guess : Int := (numerator.log2 : Int) - denominator.log2 - form.digits
    let floorAt (exponent : Int) : Nat :=
      let (n, d) := scaled 2 (-exponent) numerator denominator
      n / d
    let exponent := if floorAt guess < Nat.pow 2 form.digits then guess else guess + 1
    let exponent := max exponent form.lowest
    let (n, d) := scaled 2 (-exponent) numerator denominator
    let mantissa := nearest n d
    if (form.limit : Int) < (mantissa.log2 : Int) + exponent + 1 then (infinite negative, false)
    else
      let isSmall := mantissa.log2 + 1 < form.digits && !(n % d = 0)
      (finite negative mantissa exponent, !isSmall)

/-- The sum of an exponent that is written and one that follows from the place of the point, kept
within bounds beyond which no form has numbers. -/
def boundedExponent (written : Int) (places : Nat) : Int :=
  max (-30000) (min 30000 (written - places))

/-- The exponent behind a mark, which counts only if it has digits. -/
def readExponent (marks : String) (text : Bytes) : Int × Bytes :=
  match text with
  | mark :: rest =>
    let (negative, digits) := match rest with
      | 0x2D :: digits => (true, digits)
      | 0x2B :: digits => (false, digits)
      | digits => (false, digits)
    let (own, behind) := digits.span isDigit
    if (Bytes.ofString marks).contains mark && !own.isEmpty then
      (if negative then -(decimal own : Int) else decimal own, behind)
    else (0, text)
  | [] => (0, [])

/-- A number without a sign in front of a text; none where there is no digit. -/
def readUnsigned (form : BinaryForm) (negative : Bool) (text : Bytes) :
    Option (Real × Bool × Bytes) :=
  let digitsIn (base : Nat) (text : Bytes) : Option (Bytes × Nat × Bytes) :=
    let isOwn (b : UInt8) : Bool := digitValue b < base
    let (whole, rest) := text.span isOwn
    let (part, rest) := match rest with
      | 0x2E :: behind => if whole.isEmpty && !behind.head?.any isOwn then ([], rest)
        else behind.span isOwn
      | _ => ([], rest)
    if whole.isEmpty && part.isEmpty then none else some (whole ++ part, part.length, rest)
  let word (name : String) : Option Bytes :=
    let front := text.take name.length
    if front.map (fun b => if 0x41 ≤ b && b ≤ 0x5A then b + 0x20 else b) = Bytes.ofString name then
      some (text.drop name.length)
    else none
  let hexadecimal : Option (Real × Bool × Bytes) :=
    match text with
    | 0x30 :: x :: rest =>
      if x = 0x78 || x = 0x58 then
        (digitsIn 16 rest).map fun (digits, places, rest) =>
          let (written, rest) := readExponent "pP" rest
          let exponent := boundedExponent written (4 * places)
          let (n, d) := scaled 2 exponent (digitsValue 16 digits) 1
          let (value, inRange) := ofQuotient form negative n d
          (value, inRange, rest)
      else none
    | _ => none
  match hexadecimal, word "infinity", word "inf", word "nan" with
  | some read, _, _, _ => some read
  | _, some rest, _, _ => some (infinite negative, true, rest)
  | _, _, some rest, _ => some (infinite negative, true, rest)
  | _, _, _, some rest => some (notANumber negative, true, rest)
  | _, _, _, _ =>
    (digitsIn 10 text).map fun (digits, places, rest) =>
      let (written, rest) := readExponent "eE" rest
      let exponent := boundedExponent written places
      let (n, d) := scaled 10 exponent (decimal digits) 1
      let (value, inRange) := ofQuotient form negative n d
      (value, inRange, rest)

/-- A number in front of a text, whether it lies within the range of the form, and the text behind
it; none where there is no number. -/
def read (form : BinaryForm) (text : Bytes) : Option (Real × Bool × Bytes) :=
  match text.dropWhile isSpace with
  | 0x2D :: rest => readUnsigned form true rest
  | 0x2B :: rest => readUnsigned form false rest
  | rest => readUnsigned form false rest

/-- Digits with a point in front of the last ones. -/
def pointed (places : Nat) (keepsPoint : Bool) (n : Nat) : Bytes :=
  let digits := digitsOf n
  let digits := List.replicate (places + 1 - digits.length) 0x30 ++ digits
  let whole := digits.take (digits.length - places)
  if places = 0 then (if keepsPoint then whole ++ [0x2E] else whole)
  else whole ++ 0x2E :: digits.drop (digits.length - places)

/-- A number with so many decimal places. -/
def fixed (places : Nat) (keepsPoint : Bool) (mantissa : Nat) (exponent : Int) : Bytes :=
  let (n, d) := scaled 2 exponent mantissa 1
  pointed places keepsPoint (nearest (n * Nat.pow 10 places) d)

/-- The digits of a number that is not zero, one in front of the point, and its power of ten. -/
def decimalForm (places : Nat) (mantissa : Nat) (exponent : Int) : Nat × Int :=
  let (n, d) := scaled 2 exponent mantissa 1
  let roundedAt (power : Int) : Nat :=
    let (n, d) := scaled 10 (places - power) n d
    nearest n d
  let isAtLeast (power : Int) : Bool :=
    let (n, d) := scaled 10 (-power) n d
    d ≤ n
  let guess : Int := ((n.log2 : Int) - d.log2) * 30103 / 100000
  let power := ([guess + 2, guess + 1, guess, guess - 1].find? isAtLeast).getD (guess - 2)
  let digits := roundedAt power
  if digits < Nat.pow 10 (places + 1) then (digits, power) else (roundedAt (power + 1), power + 1)

/-- A power behind a mark, with a sign and at least so many digits. -/
def powerText (mark : UInt8) (least : Nat) (power : Int) : Bytes :=
  let digits := digitsOf power.natAbs
  let zeros := List.replicate (least - digits.length) 0x30
  mark :: (if power < 0 then 0x2D else 0x2B) :: zeros ++ digits

/-- A number with one digit in front of the point, and a power of ten. -/
def scientific (places : Nat) (keepsPoint : Bool) (mantissa : Nat) (exponent : Int) : Bytes :=
  let (digits, power) := if mantissa = 0 then (0, 0) else decimalForm places mantissa exponent
  pointed places keepsPoint digits ++ powerText 0x65 2 power

/-- A text without zeros behind a point, and without a point that nothing stands behind. -/
def withoutZeros (text : Bytes) : Bytes :=
  if text.contains 0x2E then
    let kept := text.reverse.dropWhile (· = 0x30)
    (if kept.head? = some 0x2E then kept.drop 1 else kept).reverse
  else text

/-- A number with so many digits in the shorter of the two forms. -/
def general (digits : Nat) (keepsZeros : Bool) (mantissa : Nat) (exponent : Int) : Bytes :=
  let count := max digits 1
  let (own, power) := if mantissa = 0 then (0, 0) else decimalForm (count - 1) mantissa exponent
  let trim (text : Bytes) : Bytes := if keepsZeros then text else withoutZeros text
  if -4 ≤ power ∧ power < count then
    trim (fixed ((count : Int) - 1 - power).toNat keepsZeros mantissa exponent)
  else trim (pointed (count - 1) keepsZeros own) ++ powerText 0x65 2 power

/-- A number in hexadecimal digits and a power of two. -/
def hexadecimal (form : BinaryForm) (places : Option Nat) (keepsPoint : Bool) (mantissa : Nat)
    (exponent : Int) : Bytes :=
  let least : Int := form.lowest + form.digits - form.leading
  let behind := (form.digits - form.leading + 3) / 4
  let power : Int :=
    if mantissa = 0 then 0 else max least ((mantissa.log2 : Int) + exponent + 1 - form.leading)
  let (n, d) := scaled 2 (exponent - power) mantissa 1
  let count := places.getD behind
  let unit := Nat.pow 16 count
  let digits := nearest (n * unit) d
  let whole := Nat.toDigits 16 (digits / unit)
  let part := Nat.toDigits 16 (digits % unit)
  let padded := List.replicate (count - part.length) '0' ++ part
  let shown := if count = 0 then [] else padded
  let kept := if places.isSome then shown else (shown.reverse.dropWhile (· = '0')).reverse
  let point := if kept.isEmpty && !keepsPoint then [] else ['.']
  Bytes.ofString "0x" ++ Bytes.ofChars (whole ++ point ++ kept) ++ powerText 0x70 1 power

end Real

end Intercept.Shell
