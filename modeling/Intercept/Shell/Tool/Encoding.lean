import Intercept.Shell.Tool.Parts

/-!
# Bytes written in letters

Tools that write any bytes in an alphabet of letters, digits and signs, and that read them back.
-/

namespace Intercept.Shell.Tool

/-- An alphabet: the letters of the numbers below its size, and the bits that one of them stands
for. Letters are written in rows that stand for whole bytes. -/
structure Alphabet where
  letters : Bytes
  bits : Nat
  /-- How many letters a row has, and how many bytes it stands for. -/
  row : Nat
  size : Nat

def capitalLetters : String := "ABCDEFGHIJKLMNOPQRSTUVWXYZ"

/-- The alphabet of sixty-four letters. -/
def wideAlphabet : Alphabet :=
  { letters := Bytes.ofString (capitalLetters ++ "abcdefghijklmnopqrstuvwxyz0123456789+/")
    bits := 6, row := 4, size := 3 }

/-- The alphabet of thirty-two letters. -/
def narrowAlphabet : Alphabet :=
  { letters := Bytes.ofString (capitalLetters ++ "234567"), bits := 5, row := 8, size := 5 }

namespace Alphabet

/-- How many letters some bytes take. -/
def lettersFor (a : Alphabet) (count : Nat) : Nat := (8 * count + a.bits - 1) / a.bits

/-- The row for bytes that are no more than it can stand for. -/
def encodeRow (a : Alphabet) (bytes : Bytes) : Bytes :=
  let filled := bytes ++ List.replicate (a.size - bytes.length) 0
  let number := filled.foldl (fun n b => n * 256 + b.toNat) 0
  let letter (index : Nat) : UInt8 :=
    a.letters.getD ((number >>> (a.bits * (a.row - 1 - index))) % (1 <<< a.bits)) 0
  let used := a.lettersFor bytes.length
  (List.range used).map letter ++ List.replicate (a.row - used) Bytes.equalsSign

/-- The letters for some bytes. The first argument bounds the number of rows. -/
def encode (a : Alphabet) : Nat → Bytes → Bytes
  | 0, _ => []
  | _, [] => []
  | fuel + 1, bytes => a.encodeRow (bytes.take a.size) ++ a.encode fuel (bytes.drop a.size)

/-- The number of a letter. -/
def valueOf? (a : Alphabet) (letter : UInt8) : Option Nat := a.letters.findIdx? (· = letter)

/-- The bytes that letters at the front of a row stand for. -/
def bytesFor (a : Alphabet) (values : List Nat) : Bytes :=
  let count := values.length * a.bits / 8
  let number := values.foldl (fun n value => n <<< a.bits ||| value) 0
  let spare := values.length * a.bits - 8 * count
  (List.range count).map fun index => UInt8.ofNat ((number >>> spare) >>> (8 * (count - 1 - index)))

/-- The bytes that a row stands for, and whether it is as it should be. Its front counts in any
case. -/
def decodeRow (a : Alphabet) (row : Bytes) : Bytes × Bool :=
  let front := row.takeWhile fun letter => (a.valueOf? letter).isSome
  let rest := row.drop front.length
  let bytes := a.bytesFor (front.filterMap a.valueOf?)
  let isFilled := row.length = a.row && rest.all (· = Bytes.equalsSign) &&
    a.lettersFor bytes.length = front.length && !bytes.isEmpty
  (bytes, isFilled)

/-- The bytes that letters stand for, up to a row that is not as it should be. The first argument
bounds the number of rows. -/
def decode (a : Alphabet) : Nat → Bytes → Bytes × Bool
  | 0, _ => ([], true)
  | _, [] => ([], true)
  | fuel + 1, letters =>
    match a.decodeRow (letters.take a.row) with
    | (bytes, false) => (bytes, false)
    | (bytes, true) =>
      let (rest, isWhole) := a.decode fuel (letters.drop a.row)
      (bytes ++ rest, isWhole)

end Alphabet

def encodingOptions : Use.Known :=
  { letters := "diw:", names := [("decode", 'd'), ("ignore-garbage", 'i'), ("wrap", 'w')] }

/-- Bytes in lines of a length; in one line without an end where the length is zero. -/
def wrapped (length : Nat) : Nat → Bytes → Bytes
  | 0, _ => []
  | _, [] => []
  | fuel + 1, bytes =>
    if length = 0 then bytes
    else bytes.take length ++ Bytes.newline :: wrapped length fuel (bytes.drop length)

/-- Writes bytes in an alphabet, or reads them back. -/
def encoding (a : Alphabet) (use : Use) : Action Nat := do
  match use.argument? 'w', use.operands with
  | _, _ :: extra :: _ =>
    refuseUse (Bytes.ofString "extra operand " ++ quotedText extra)
    return 1
  | width, operands =>
    let length := width.elim (some 76) number?
    if length.isNone then
      remark (Bytes.ofString "invalid wrap size: " ++ quotedText (width.getD []))
      return 1
    let name := operands.headD inputSign
    match contentsOfName (← get) name with
    | .error cause =>
      if isOpened name cause then explain "" (Bytes.ofString "read error") (reason cause)
      else tellUnreadable name cause
      return 1
    | .ok text =>
      takeFrom name text.length
      if !use.has 'd' then
        let letters := a.encode (text.length + 1) text
        return if ← emit (wrapped (length.getD 0) (letters.length + 1) letters) then 0 else 1
      let isLetter (b : UInt8) : Bool := (a.valueOf? b).isSome || b = Bytes.equalsSign
      let letters := text.filter fun b => b ≠ Bytes.newline && (!use.has 'i' || isLetter b)
      let (bytes, isWhole) := a.decode (letters.length + 1) letters
      if !(← emit bytes) then return 1
      if isWhole then return 0
      remark (Bytes.ofString "invalid input")
      return 1

end Intercept.Shell.Tool
