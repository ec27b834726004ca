import Intercept.Shell.Names

/-!
# How tools quote what they write about

In their messages, tools show names between quotes, with visible forms for bytes that have none.
Some of them write a name so that a shell could read it, and quote it only where that is needed.
-/

namespace Intercept.Shell

def isPrintable (b : UInt8) : Bool := 0x20 ≤ b && b ≤ 0x7E

/-- The three octal digits of a byte behind a backslash. -/
def octalEscape (b : UInt8) : Bytes :=
  let digit (n : Nat) : UInt8 := UInt8.ofNat (0x30 + n % 8)
  [0x5C, digit (b.toNat / 64), digit (b.toNat / 8), digit b.toNat]

/-- The letter that stands behind a backslash for a byte. -/
def escapeLetter? (b : UInt8) : Option UInt8 :=
  [((0x07 : UInt8), (0x61 : UInt8)), (0x08, 0x62), (0x09, 0x74), (0x0A, 0x6E), (0x0B, 0x76),
    (0x0C, 0x66), (0x0D, 0x72)].lookup b

/-- The visible form of a byte that has none of its own. -/
def visibleEscape (b : UInt8) : Bytes :=
  match escapeLetter? b with
  | some letter => [0x5C, letter]
  | none => octalEscape b

/-- Text between single quotes, in which a backslash stands before quotes and backslashes. -/
def quotedText (bytes : Bytes) : Bytes :=
  let own (b : UInt8) : Bytes :=
    if b = 0x27 || b = 0x5C then [0x5C, b]
    else if isPrintable b then [b]
    else visibleEscape b
  0x27 :: bytes.flatMap own ++ [0x27]

/-- Bytes that have no meaning for a shell, wherever they stand. -/
def isHarmless (b : UInt8) : Bool :=
  isNameByte b || (Bytes.ofString "%+,-./:]@").contains b

/-- Whether a shell would read the bytes as they are. -/
def isShellSafe (bytes : Bytes) : Bool :=
  match bytes with
  | [] => false
  | [b] => isHarmless b
  | b :: rest => (isHarmless b || isBrace b) && rest.all fun c =>
      isHarmless c || isBrace c || c = 0x7E || c = 0x23
where
  isBrace (b : UInt8) : Bool := b = 0x7B || b = 0x7D

/-- The bytes behind an opening quote; `escaping` holds behind bytes with visible forms. -/
def shellQuotedFrom (escaping : Bool) : Bytes → Bytes
  | [] => [0x27]
  | b :: rest =>
    if isPrintable b then
      let leave : Bytes := if escaping then [0x27, 0x27] else []
      let own : Bytes := if b = 0x27 then [0x27, 0x5C, 0x27, 0x27] else [b]
      leave ++ own ++ shellQuotedFrom false rest
    else
      let enter : Bytes := if escaping then [] else [0x27, 0x24, 0x27]
      enter ++ visibleEscape b ++ shellQuotedFrom true rest

/-- The bytes in quotes as a shell would read them. -/
def shellQuoted (bytes : Bytes) : Bytes :=
  if bytes.contains 0x27 && bytes.all fun b => isHarmless b || b = 0x27 || b = Bytes.space then
    Bytes.quote :: bytes ++ [Bytes.quote]
  else 0x27 :: shellQuotedFrom false bytes

/-- The bytes as a shell would read them, in quotes only if they are needed. -/
def shellText (bytes : Bytes) : Bytes := if isShellSafe bytes then bytes else shellQuoted bytes

/-- A name in a message: in quotes only if it holds bytes that would hide it. -/
def nameText (bytes : Bytes) : Bytes := shellText bytes

end Intercept.Shell
