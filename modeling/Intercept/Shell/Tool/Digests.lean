import Intercept.Shell.Digest
import Intercept.Shell.Signal
import Intercept.Shell.Tool.Parts

/-!
# Digests of files

Tools that write a number for each file, and that compare such numbers with those in a list.
-/

namespace Intercept.Shell.Tool

/-- A kind of digest: what a tagged line calls it, how long it is, and how it is made. -/
structure DigestKind where
  tag : String
  length : Nat
  digest : Bytes → Bytes

def digestKinds : List (String × DigestKind) :=
  [("md5", ⟨"MD5", 16, Digest.md5⟩), ("sha1", ⟨"SHA1", 20, Digest.sha1⟩),
    ("sha224", ⟨"SHA224", 28, Digest.sha224⟩), ("sha256", ⟨"SHA256", 32, Digest.sha256⟩),
    ("sha384", ⟨"SHA384", 48, Digest.sha384⟩), ("sha512", ⟨"SHA512", 64, Digest.sha512⟩)]

def digestOptions : Use.Known :=
  { letters := "bctwzQSITX"
    names := [("binary", 'b'), ("check", 'c'), ("text", 't'), ("warn", 'w'), ("zero", 'z'),
      ("quiet", 'Q'), ("status", 'S'), ("ignore-missing", 'I'), ("tag", 'T'), ("strict", 'X')] }

/-- A name on one line, and whether that needed escapes. -/
def onOneLine (name : Bytes) : Bytes × Bool :=
  let own (b : UInt8) : Bytes :=
    if b = Bytes.newline then [0x5C, 0x6E]
    else if b = 0x0D then [0x5C, 0x72]
    else if b = 0x5C then [0x5C, 0x5C]
    else [b]
  let written := name.flatMap own
  (written, written ≠ name)

/-- A name without such escapes. -/
def offOneLine : Bytes → Bytes
  | 0x5C :: 0x6E :: rest => Bytes.newline :: offOneLine rest
  | 0x5C :: 0x72 :: rest => 0x0D :: offOneLine rest
  | 0x5C :: 0x5C :: rest => 0x5C :: offOneLine rest
  | b :: rest => b :: offOneLine rest
  | [] => []

/-- The line that tells the digest of a file. -/
def digestLine (use : Use) (kind : DigestKind) (name digits : Bytes) : Bytes :=
  let (shown, isEscaped) := if use.has 'z' then (name, false) else onOneLine name
  let mark : Bytes := if isEscaped then [0x5C] else []
  let line :=
    if use.has 'T' then
      Bytes.ofString (kind.tag ++ " (") ++ shown ++ Bytes.ofString ") = " ++ digits
    else digits ++ Bytes.ofString (if use.has 'b' then " *" else "  ") ++ shown
  mark ++ line ++ [use.lineEnd]

/-- The digits of a digest and the name of its file, as a line of a list tells them. -/
def digestOfLine? (kind : DigestKind) (line : Bytes) : Option (Bytes × Bytes) :=
  let isDigits (digits : Bytes) : Bool :=
    digits.length = 2 * kind.length && digits.all (digitValue · < 16)
  let (isEscaped, line) := match line with
    | 0x5C :: rest => (true, rest)
    | _ => (false, line)
  let name (bytes : Bytes) : Bytes := if isEscaped then offOneLine bytes else bytes
  let front := Bytes.ofString (kind.tag ++ " (")
  if front.isPrefixOf line then
    let digits := line.drop (line.length - 2 * kind.length)
    let middle := (line.drop front.length).take (line.length - front.length - digits.length)
    let sign := Bytes.ofString ") = "
    if isDigits digits && sign.isSuffixOf middle then
      some (smallLetters digits, name (middle.take (middle.length - sign.length)))
    else none
  else
    let digits := line.take (2 * kind.length)
    match line.drop digits.length with
    | 0x20 :: sign :: rest =>
      if isDigits digits && (sign = 0x20 || sign = 0x2A) && !rest.isEmpty then
        some (smallLetters digits, name rest)
      else none
    | _ => none

/-- How many lines of a list there were of each sort. -/
structure Checked where
  matching : Nat := 0
  failing : Nat := 0
  missing : Nat := 0
  ill : Nat := 0

/-- Compares a file with what a line of a list tells of it. -/
def checkLine (use : Use) (kind : DigestKind) (checked : Checked) (line : Bytes) :
    Action Checked := do
  match digestOfLine? kind line with
  | none => return { checked with ill := checked.ill + 1 }
  | some (digits, name) =>
    let (shown, isEscaped) := onOneLine name
    let front : Bytes := if isEscaped then 0x5C :: shown else shown
    let told (verdict : String) : Action Unit := do
      if !use.has 'S' then
        let _ ← emit (front ++ Bytes.ofString s!": {verdict}\n")
    match contentsOfName (← get) name with
    | .ok text =>
      takeFrom name text.length
      if Digest.hexadecimal (kind.digest text) = digits then
        if !use.has 'Q' then told "OK"
        return { checked with matching := checked.matching + 1 }
      told "FAILED"
      return { checked with failing := checked.failing + 1 }
    | .error cause =>
      if use.has 'I' then return checked
      tellUnreadable name cause
      told "FAILED open or read"
      return { checked with missing := checked.missing + 1 }

/-- Compares files with the lists in others. -/
def checkLists (use : Use) (kind : DigestKind) : Action Nat := do
  let mut status := 0
  for list in inputs use do
    match contentsOfName (← get) list with
    | .error cause =>
      tellUnreadable list cause
      status := 1
    | .ok text =>
      takeFrom list text.length
      let lines := (barelines text Bytes.newline).filter fun line =>
        !line.isEmpty && line.head? ≠ some 0x23
      let checked ← lines.foldlM (checkLine use kind) {}
      let warn (count : Nat) (one many : String) : Action Unit := do
        if count ≠ 0 && !use.has 'S' then
          remark (Bytes.ofString (s!"WARNING: {count} " ++ if count = 1 then one else many))
      if checked.ill = lines.length then
        explain "" (nameText (titleOf list)) "no properly formatted checksum lines found"
        status := 1
      else
        warn checked.ill "line is improperly formatted" "lines are improperly formatted"
        warn checked.missing "listed file could not be read" "listed files could not be read"
        warn checked.failing "computed checksum did NOT match" "computed checksums did NOT match"
        if use.has 'I' && checked.matching = 0 && !use.has 'S' then
          explain "" (nameText (titleOf list)) "no file was verified"
        let isRight := checked.matching ≠ 0 && checked.failing = 0 && checked.missing = 0 &&
          (!use.has 'X' || checked.ill = 0)
        if !isRight then status := 1
  return status

/-- Writes the digests of files, or compares them with lists. -/
def digests (kind : DigestKind) (use : Use) : Action Nat := do
  let onlyChecks := [('I', "ignore-missing"), ('S', "status"), ('w', "warn"), ('Q', "quiet"),
    ('X', "strict")]
  if !use.has 'c' then
    if let some (_, name) := onlyChecks.find? fun (letter, _) => use.has letter then
      refuseUse
        (Bytes.ofString s!"the --{name} option is meaningful only when verifying checksums")
      return 1
  if use.has 'c' then return ← checkLists use kind
  let (texts, isWhole) ← readInputs (inputs use) tellUnreadable
  let line : Bytes × Bytes → Bytes
    | (name, text) => digestLine use kind name (Digest.hexadecimal (kind.digest text))
  if !(← emit (texts.flatMap line)) then return 1
  return if isWhole then 0 else 1

/-- The number of a file that is turned and added to byte by byte. -/
def turnedSum (text : Bytes) : Nat :=
  text.foldl (fun sum b => (sum / 2 + sum % 2 * 0x8000 + b.toNat) % 0x10000) 0

/-- The sum of the bytes of a file, folded into sixteen bits. -/
def foldedSum (text : Bytes) : Nat :=
  let sum := (text.foldl (fun sum b => sum + b.toNat) 0) % (1 <<< 32)
  let folded := sum % 0x10000 + sum / 0x10000
  folded % 0x10000 + folded / 0x10000

/-- Writes a number and a size for each file, and its name if it was given. -/
def numbersOf (number : Bytes → Bytes) (use : Use) : Action Nat := do
  let (texts, isWhole) ← readInputs (inputs use) tellUnreadable
  let line : Bytes × Bytes → Bytes
    | (name, text) =>
      let shown := if use.operands.isEmpty then [] else Bytes.space :: name
      number text ++ shown ++ [Bytes.newline]
  if !(← emit (texts.flatMap line)) then return 1
  return if isWhole then 0 else 1

/-- A number with zeros or blanks in front of it, up to a width. -/
def inWidth (width : Nat) (filler : UInt8) (n : Nat) : Bytes :=
  List.replicate (width - (digitsOf n).length) filler ++ digitsOf n

/-- The remainders and sizes of files. -/
def cksum : Use → Action Nat :=
  numbersOf fun text =>
    digitsOf (Digest.remainder text) ++ Bytes.space :: digitsOf text.length

/-- The sums of files, and their sizes in blocks. -/
def sumOfFiles (use : Use) : Action Nat :=
  let byWords := (use.options.filter fun (letter, _) => letter = 's' || letter = 'r').getLast?
  let blocks (size : Nat) (text : Bytes) : Nat := (text.length + size - 1) / size
  if byWords.any (·.1 = 's') then
    numbersOf (fun text =>
      digitsOf (foldedSum text) ++ Bytes.space :: digitsOf (blocks 512 text)) use
  else
    numbersOf (fun text =>
      let size := inWidth 5 Bytes.space (blocks 1024 text)
      inWidth 5 0x30 (turnedSum text) ++ Bytes.space :: size) use

end Intercept.Shell.Tool
