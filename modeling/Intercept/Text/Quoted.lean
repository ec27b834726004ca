import Intercept.Text.Characters
import Intercept.Text.Utf8

/-!
# Text in quotes, for a reader to tell apart

A value that is compared is shown between quotes, so that every difference can be seen: a quote, a
backslash, a character without a printed form and a byte that belongs to no character are written
as escapes. So is a character that joins the one before it, which would hide behind it.
-/

namespace Intercept.Quoted

/-- A hexadecimal digit, in lower case or in upper case. -/
def digit (upper : Bool) (n : Nat) : Char :=
  if n < 10 then Char.ofNat (48 + n) else Char.ofNat ((if upper then 55 else 87) + n)

/-- The digits of a number in base 16, in lower case and without leading zeros. -/
def hex (n : Nat) : List Char := (Nat.toDigits 16 n)

/-- The character written by its number. -/
def numbered (c : Char) : List Char := ['\\', 'u', '\x7b'] ++ hex c.toNat ++ ['\x7d']

/-- A character between quotes. -/
def character (c : Char) : List Char :=
  if c.toNat = 0 then ['\\', '0']
  else if c = '\t' then ['\\', 't']
  else if c = '\r' then ['\\', 'r']
  else if c = '\n' then ['\\', 'n']
  else if c = '"' then ['\\', '"']
  else if c = '\\' then ['\\', '\\']
  else if Characters.isExtending c then numbered c
  else if Characters.isPrinted c then [c]
  else numbered c

/-- A byte that belongs to no character. -/
def stray (b : UInt8) : List Char :=
  ['\\', 'x', digit true (b.toNat / 16), digit true (b.toNat % 16)]

/-- A text in quotes. -/
def text (s : String) : String :=
  String.ofList ('"' :: s.toList.flatMap character ++ ['"'])

/-- A file name in quotes. -/
def fileName (bytes : Bytes) : String :=
  let inner := (Utf8.pieces bytes).flatMap fun
    | .scalar c _ => character c
    | .invalid stretch => stretch.flatMap stray
  String.ofList ('"' :: inner ++ ['"'])

end Intercept.Quoted
