import Intercept.Shell.Names
import Intercept.Text.Utf8

/-!
# Escapes

What a backslash and the bytes behind it stand for. Shells and tools know different letters, and
differ in which digits make a number.
-/

namespace Intercept.Shell.Format

/-- What stands behind a backslash. -/
inductive Escape where
  | text (bytes : Bytes)
  /-- Nothing more is to be written. -/
  | stop
  | flawed (message : String)
  deriving DecidableEq, Repr

/-- Up to `count` digits of a base at the front. -/
def takeDigits (base : Nat) : Nat → Bytes → Bytes × Bytes
  | 0, rest => ([], rest)
  | _, [] => ([], [])
  | count + 1, b :: rest =>
    if digitValue b < base then
      let (digits, after) := takeDigits base count rest
      (b :: digits, after)
    else ([], b :: rest)

/-- The byte that a letter behind a backslash stands for. -/
def simpleEscape? (letter : UInt8) : Option UInt8 :=
  [((0x61 : UInt8), (0x07 : UInt8)), (0x62, 0x08), (0x65, 0x1B), (0x66, 0x0C), (0x6E, 0x0A),
    (0x72, 0x0D), (0x74, 0x09), (0x76, 0x0B), (0x5C, 0x5C)].lookup letter

/-- The byte of up to three octal digits, the first of which is there. -/
def octal (text : Bytes) : Escape × Bytes :=
  let (digits, rest) := takeDigits 8 3 text
  (.text [UInt8.ofNat (digitsValue 8 digits)], rest)

/-- A number in hexadecimal digits, as many at least as a width. -/
def hexadecimal (width code : Nat) : String :=
  let own := Nat.toDigits 16 code
  String.ofList (List.replicate (width - own.length) '0' ++ own)

/-- A character of a number, as it is written where only ASCII can be. -/
def characterText (code : Nat) : Bytes :=
  if code < 0x80 then [UInt8.ofNat code]
  else if code < 0x10000 then Bytes.ofString ("\\u" ++ (hexadecimal 4 code).toUpper)
  else Bytes.ofString ("\\U" ++ (hexadecimal 8 code).toUpper)

/-- A character that is given by its number, in four digits behind a small letter and in eight
behind a capital. -/
def universal (letter : Char) (text : Bytes) : Escape × Bytes :=
  let count := if letter = 'u' then 4 else 8
  let (digits, rest) := takeDigits 16 count text
  let code := digitsValue 16 digits
  if digits.length < count then (.flawed "missing hexadecimal number in escape", rest)
  else if 0xD800 ≤ code ∧ code ≤ 0xDFFF then
    (.flawed s!"invalid universal character name \\{letter}{hexadecimal count code}", rest)
  else (.text (characterText code), rest)

/-- What stands behind a backslash in a text whose octal numbers may have a zero in front. -/
def shellEscape (text : Bytes) : Escape × Bytes :=
  match text with
  | [] => (.text [0x5C], [])
  | letter :: rest =>
    match simpleEscape? letter with
    | some b => (.text [b], rest)
    | none => if digitValue letter < 8 then octal text else (.text [0x5C], text)

/-- What stands behind a backslash in a format of the tool, or in a text that it writes with
escapes. -/
def toolEscape (inText : Bool) (text : Bytes) : Escape × Bytes :=
  match text with
  | [] => (.text [0x5C], [])
  | letter :: rest =>
    match simpleEscape? letter, Bytes.asChar letter with
    | some b, _ => (.text [b], rest)
    | none, '"' => (.text [letter], rest)
    | none, 'c' => (.stop, [])
    | none, 'u' => universal 'u' rest
    | none, 'U' => universal 'U' rest
    | none, 'x' =>
      match takeDigits 16 2 rest with
      | ([], _) => (.flawed "missing hexadecimal number in escape", rest)
      | (digits, rest) => (.text [UInt8.ofNat (digitsValue 16 digits)], rest)
    | none, c =>
      if inText && c = '0' then octal (if rest.head?.any (digitValue · < 8) then rest else text)
      else if digitValue letter < 8 then octal text
      else (.text [0x5C, letter], rest)

/-- What stands behind a backslash in the words of the tool `echo`: an unknown letter, or a number
that is none, stands for itself. -/
def echoEscape (text : Bytes) : Escape × Bytes :=
  match text with
  | 0x78 :: rest =>
    match takeDigits 16 2 rest with
    | ([], _) => (.text [0x5C, 0x78], rest)
    | (digits, rest) => (.text [UInt8.ofNat (digitsValue 16 digits)], rest)
  | 0x22 :: rest => (.text [0x5C, 0x22], rest)
  | 0x75 :: rest => (.text [0x5C, 0x75], rest)
  | 0x55 :: rest => (.text [0x5C, 0x55], rest)
  | _ => toolEscape true text

/-- Where the extended language knows escapes. -/
inductive EscapePlace where
  /-- Between single quotes behind a dollar sign. -/
  | quotes
  | echo
  | format
  /-- In an argument of a format. -/
  | argument
  deriving DecidableEq, Repr

/-- What stands behind a backslash in the extended language. What has no meaning is kept. -/
def extendedEscape (place : EscapePlace) (text : Bytes) : Escape × Bytes :=
  match text with
  | [] => (.text [0x5C], [])
  | letter :: rest =>
    let kept : Escape × Bytes := (.text [0x5C, letter], rest)
    let isOctal (text : Bytes) : Bool := text.head?.any (digitValue · < 8)
    let numbered (count : Nat) (written : Nat → Bytes) : Escape × Bytes :=
      match takeDigits 16 count rest with
      | ([], _) => kept
      | (digits, rest) => (.text (written (digitsValue 16 digits)), rest)
    match simpleEscape? letter, Bytes.asChar letter with
    | some b, _ => (.text [b], rest)
    | none, 'E' => (.text [0x1B], rest)
    | none, '\'' | none, '"' | none, '?' =>
      if place = .quotes || place = .format then (.text [letter], rest) else kept
    | none, 'x' => numbered 2 fun n => [UInt8.ofNat n]
    | none, 'u' => numbered 4 characterText
    | none, 'U' => numbered 8 characterText
    | none, 'c' =>
      match place, rest with
      | .format, _ => kept
      | .quotes, control :: rest => (.text [control &&& 0x1F], rest)
      | .quotes, [] => kept
      | _, _ => (.stop, [])
    | none, '0' =>
      if (place = .echo || place = .argument) && isOctal rest then octal rest else octal text
    | none, _ => if isOctal text && place ≠ .echo then octal text else kept

/-- A text with its escapes carried out, and what ended it if something did. The first argument
bounds the number of steps. -/
def unescape (escape : Bytes → Escape × Bytes) : Nat → Bytes → Bytes × Option Escape
  | 0, _ => ([], none)
  | _, [] => ([], none)
  | fuel + 1, b :: rest =>
    let push (bytes : Bytes) (rest : Bytes) :=
      let (after, ended) := unescape escape fuel rest
      (bytes ++ after, ended)
    if b = 0x5C then
      match escape rest with
      | (.text bytes, rest) => push bytes rest
      | (ended, _) => ([], some ended)
    else push [b] rest

end Intercept.Shell.Format
