import Intercept.Shell.Real
import Intercept.Shell.Tool.Parts

/-!
# Orders of lines

A line is compared by keys, which are stretches of it, in the manner that each key asks for. Where
all keys are the same, the bytes of the lines decide.
-/

namespace Intercept.Shell.Tool

/-- How stretches of lines are compared. -/
inductive SortManner where
  | bytes
  /-- As decimals, with a sign and a point. -/
  | numbers
  /-- As numbers of any form. -/
  | anyNumbers
  /-- As decimals with a letter behind them that multiplies them. -/
  | quantities
  | months
  | versions
  deriving DecidableEq, Repr

structure SortFlags where
  manner : SortManner := .bytes
  reversed : Bool := false
  folded : Bool := false
  /-- Whether only letters, digits and blanks count, or only what can be seen. -/
  onlyWords : Bool := false
  onlyPrintable : Bool := false
  /-- Whether blanks are left out in front of the beginning and of the end. -/
  skipsAtStart : Bool := false
  skipsAtEnd : Bool := false
  deriving DecidableEq, Repr

namespace SortFlags

/-- The flags with what a letter asks for; none if it asks for nothing. -/
def add? (flags : SortFlags) (atEnd : Bool) (letter : Char) : Option SortFlags :=
  match letter with
  | 'b' =>
    some (if atEnd then { flags with skipsAtEnd := true } else { flags with skipsAtStart := true })
  | 'd' => some { flags with onlyWords := true }
  | 'f' => some { flags with folded := true }
  | 'g' => some { flags with manner := .anyNumbers }
  | 'h' => some { flags with manner := .quantities }
  | 'i' => some { flags with onlyPrintable := true }
  | 'M' => some { flags with manner := .months }
  | 'n' => some { flags with manner := .numbers }
  | 'R' => some flags
  | 'r' => some { flags with reversed := true }
  | 'V' => some { flags with manner := .versions }
  | _ => none

end SortFlags

/-- A stretch of a line: from a byte of a field to a byte of another one, or to its end. Fields and
bytes are counted from zero. -/
structure SortKey where
  field : Nat := 0
  byte : Nat := 0
  lastField : Option Nat := none
  /-- How many bytes of the last field belong to the key; all if there are none. -/
  lastBytes : Nat := 0
  flags : SortFlags := {}
  deriving DecidableEq, Repr

/-- What is left of a line behind so many fields. Where no byte separates them, the blanks in front
of a field belong to it. A separator behind the last of them is left in place if that is asked
for. -/
def skipFields (separator : Option UInt8) (keepsLast : Bool) : Nat → Bytes → Bytes
  | 0, line => line
  | count + 1, line =>
    match separator with
    | some b =>
      let rest := line.dropWhile (· ≠ b)
      skipFields separator keepsLast count
        (if count = 0 && keepsLast then rest else rest.drop 1)
    | none =>
      skipFields separator keepsLast count ((line.dropWhile isBlank).dropWhile (!isBlank ·))

/-- The stretch of a line that a key names. -/
def SortKey.ofLine (key : SortKey) (separator : Option UInt8) (line : Bytes) : Bytes :=
  let skip (wanted : Bool) (text : Bytes) : Bytes :=
    if wanted then text.dropWhile isBlank else text
  let fields := skipFields separator false key.field line
  let start := (skip key.flags.skipsAtStart fields).drop key.byte
  match key.lastField with
  | none => start
  | some last =>
    let behind :=
      if key.lastBytes = 0 then skipFields separator true (last + 1) line
      else (skip key.flags.skipsAtEnd (skipFields separator false last line)).drop key.lastBytes
    start.take (start.length - behind.length)

/-- A decimal at the beginning of a text: its sign, and the digits before and behind the point. -/
def leadingDecimal (text : Bytes) : Bool × Nat × Bytes × Bytes :=
  let text := text.dropWhile isBlank
  let (isNegative, rest) := match text with
    | 0x2D :: rest => (true, rest)
    | rest => (false, rest)
  let (whole, rest) := rest.span isDigit
  match rest with
  | 0x2E :: rest =>
    let (fraction, rest) := rest.span isDigit
    (isNegative, decimal whole, fraction, rest)
  | rest => (isNegative, decimal whole, [], rest)

/-- The order of two texts. -/
def bytesOrder (a b : Bytes) : Ordering :=
  if a = b then .eq else if bytesLe a b then .lt else .gt

def natOrder (n m : Nat) : Ordering := if n < m then .lt else if n = m then .eq else .gt

/-- The order of two decimals; zero has no sign. -/
def decimalOrder (a b : Bool × Nat × Bytes) : Ordering :=
  let fraction (digits : Bytes) : Bytes := (digits.reverse.dropWhile (· = 0x30)).reverse
  let size (x y : Bool × Nat × Bytes) : Ordering :=
    (natOrder x.2.1 y.2.1).then (bytesOrder (fraction x.2.2) (fraction y.2.2))
  let isNegative (x : Bool × Nat × Bytes) : Bool :=
    x.1 && (x.2.1 ≠ 0 || !(fraction x.2.2).isEmpty)
  match isNegative a, isNegative b with
  | false, false => size a b
  | true, true => size b a
  | true, false => .lt
  | false, true => .gt

/-- The rank of the letter behind a quantity. -/
def quantityRank (rest : Bytes) : Nat :=
  let letters := Bytes.ofString "KMGTPEZYRQ"
  match rest with
  | b :: _ => if b = 0x6B then 1 else (letters.findIdx? (· = b)).elim 0 (· + 1)
  | [] => 0

/-- The rank of a month by its first letters. -/
def monthRank (text : Bytes) : Nat :=
  let names := ["JAN", "FEB", "MAR", "APR", "MAY", "JUN", "JUL", "AUG", "SEP", "OCT", "NOV", "DEC"]
  let own := ((text.dropWhile isBlank).take 3).map fun b =>
    if 0x61 ≤ b && b ≤ 0x7A then b - 0x20 else b
  (names.findIdx? fun name => Bytes.ofString name = own).elim 0 (· + 1)

/-- The order of two numbers of any form. What is none comes first. -/
def realOrder (a b : Bytes) : Ordering :=
  let rank (text : Bytes) : Nat × Int × Int :=
    match Real.read .extended (text.dropWhile isSpace) with
    | some (.finite isNegative mantissa exponent, _, _) =>
      (3, if isNegative then -(mantissa : Int) else mantissa, exponent)
    | some (.infinite isNegative, _, _) => (if isNegative then 2 else 4, 0, 0)
    | some (.notANumber _, _, _) => (1, 0, 0)
    | none => (0, 0, 0)
  let (first, m, e) := rank a
  let (second, n, f) := rank b
  let least := min e f
  let (x, y) := (m * Nat.pow 2 (e - least).toNat, n * Nat.pow 2 (f - least).toNat)
  (natOrder first second).then (if x < y then .lt else if x = y then .eq else .gt)

/-- The rank of a byte in a version: a tilde comes before the end, and letters before other
signs. -/
def versionRank (text : Bytes) : Int :=
  match text with
  | [] => 0
  | b :: _ =>
    if isDigit b then 0
    else if isNameByte b && b ≠ 0x5F then b.toNat
    else if b = 0x7E then -1
    else b.toNat + 256

/-- The order of two versions, in which digits count as numbers. -/
def versionOrder : Nat → Bytes → Bytes → Ordering
  | 0, a, b => bytesOrder a b
  | _ + 1, [], [] => .eq
  | fuel + 1, a, b =>
    let inWord (text : Bytes) : Bool := text.head?.any (!isDigit ·)
    if inWord a || inWord b then
      let (x, y) := (versionRank a, versionRank b)
      if x < y then .lt
      else if y < x then .gt
      else versionOrder fuel (a.drop 1) (b.drop 1)
    else
      let (first, a) := a.span isDigit
      let (second, b) := b.span isDigit
      (natOrder (decimal first) (decimal second)).then (versionOrder fuel a b)

/-- The order of two stretches. -/
def SortFlags.order (flags : SortFlags) (a b : Bytes) : Ordering :=
  let prepared (text : Bytes) : Bytes :=
    let kept := text.filter fun b =>
      (!flags.onlyWords || (isNameByte b && b ≠ 0x5F) || isBlank b) &&
        (!flags.onlyPrintable || isPrintable b)
    if flags.folded then kept.map fun b => if 0x61 ≤ b && b ≤ 0x7A then b - 0x20 else b else kept
  let number (text : Bytes) : Bool × Nat × Bytes :=
    let (sign, whole, fraction, _) := leadingDecimal text
    (sign, whole, fraction)
  let signedRank (text : Bytes) : Int :=
    let (isNegative, whole, fraction, rest) := leadingDecimal text
    if whole = 0 && fraction.all (· = 0x30) then 0
    else if isNegative then -((quantityRank rest : Int) + 1)
    else quantityRank rest + 1
  let own : Ordering := match flags.manner with
    | .bytes => bytesOrder (prepared a) (prepared b)
    | .numbers => decimalOrder (number a) (number b)
    | .quantities =>
      let (x, y) := (signedRank a, signedRank b)
      if x < y then .lt else if y < x then .gt else decimalOrder (number a) (number b)
    | .anyNumbers => realOrder a b
    | .months => natOrder (monthRank a) (monthRank b)
    | .versions => versionOrder (a.length + b.length + 2) a b
  if flags.reversed then own.swap else own

/-- How lines are put in order. -/
structure LineOrder where
  separator : Option UInt8 := none
  keys : List SortKey := []
  /-- The order of the whole lines where all keys are the same, if that counts. -/
  last : Option SortFlags := some {}

namespace LineOrder

def compareKeys (o : LineOrder) (a b : Bytes) : Ordering :=
  o.keys.foldl (fun found key =>
    found.then (key.flags.order (key.ofLine o.separator a) (key.ofLine o.separator b))) .eq

def compare (o : LineOrder) (a b : Bytes) : Ordering :=
  let byKeys := o.compareKeys a b
  match o.last with
  | none => byKeys
  | some flags => byKeys.then (flags.order a b)

/-- Lines in order; those that are the same keep theirs. -/
def sort (o : LineOrder) (lines : List Bytes) : List Bytes :=
  lines.mergeSort fun a b => o.compare a b ≠ .gt

/-- Rows of lines in one, as if each were in order. -/
def merge (o : LineOrder) (rows : List (List Bytes)) : List Bytes :=
  rows.foldl (fun all row => all.merge row fun a b => o.compare a b ≠ .gt) []

/-- Lines without those that are the same as the one before them. -/
def distinct (o : LineOrder) : List Bytes → List Bytes
  | [] => []
  | line :: lines => line :: distinctAfter line lines
where
  distinctAfter (before : Bytes) : List Bytes → List Bytes
    | [] => []
    | line :: lines =>
      if o.compare before line = .eq then distinctAfter before lines
      else line :: distinctAfter line lines

end LineOrder

/-- Why a text is no key. -/
def keyRefusal (why : String) (spec : Bytes) : Bytes :=
  Bytes.ofString s!"{why}: invalid field specification " ++ quotedText spec

/-- A count in a key, and what follows it. -/
def keyCount (what : String) (text : Bytes) : Except Bytes (Nat × Bytes) :=
  let (digits, rest) := text.span isDigit
  if digits.isEmpty then
    .error (Bytes.ofString s!"{what}: invalid count at start of " ++ quotedText text)
  else .ok (decimal digits, rest)

/-- Flags at the front of a text, and what follows them. -/
def keyFlags (atEnd : Bool) (flags : SortFlags) : Bytes → SortFlags × Bytes
  | [] => (flags, [])
  | letter :: rest =>
    match flags.add? atEnd (Bytes.asChar letter) with
    | some flags => keyFlags atEnd flags rest
    | none => (flags, letter :: rest)

/-- The key that a text names. A failure is a message. -/
def readKey (spec : Bytes) : Except Bytes SortKey := do
  let (field, rest) ← keyCount "invalid number at field start" spec
  if field = 0 then throw (keyRefusal "field number is zero" spec)
  let (byte, rest) ← match rest with
    | 0x2E :: rest => keyCount "invalid number after '.'" rest
    | rest => .ok (1, rest)
  if byte = 0 then throw (keyRefusal "character offset is zero" spec)
  let (flags, rest) := keyFlags false {} rest
  let key : SortKey := { field := field - 1, byte := byte - 1, flags }
  match rest with
  | [] => return key
  | 0x2C :: rest =>
    let (last, rest) ← keyCount "invalid number after ','" rest
    if last = 0 then throw (keyRefusal "field number is zero" spec)
    let (lastBytes, rest) ← match rest with
      | 0x2E :: rest => keyCount "invalid number after '.'" rest
      | rest => .ok (0, rest)
    let (flags, rest) := keyFlags true flags rest
    if !rest.isEmpty then throw (keyRefusal "stray character in field spec" spec)
    return { key with lastField := some (last - 1), lastBytes, flags }
  | _ => throw (keyRefusal "stray character in field spec" spec)

/-- The order that options ask for. A failure is a message. -/
def lineOrderOf (use : Use) : Except Bytes LineOrder := do
  let general := use.options.foldl (fun (flags : SortFlags) (letter, _) =>
    match flags.add? false letter with
    | some flags => if letter = 'b' then { flags with skipsAtEnd := true } else flags
    | none => flags) {}
  let separators := (use.options.filter (·.1 = 't')).map (·.2)
  let separator ← match separators with
    | [] => pure none
    | first :: others =>
      match first with
      | [] => throw (Bytes.ofString "empty tab")
      | [b] =>
        if others.all (· = [b]) then pure (some b)
        else throw (Bytes.ofString "incompatible tabs")
      | [0x5C, 0x30] => pure (some 0)
      | text => throw (Bytes.ofString "multi-character tab " ++ quotedText text)
  let keys ← ((use.options.filter (·.1 = 'k')).map (·.2)).mapM readKey
  let own (key : SortKey) : SortKey :=
    if key.flags = {} then { key with flags := general } else key
  let all : List SortKey := if keys.isEmpty then [{ flags := general }] else keys.map own
  let isExact := use.hasAny "su"
  return { separator
           keys := all
           last := if isExact then none else some { reversed := general.reversed } }

/-- Tells whether lines are in order, and of the first that is not. -/
def checkOrder (use : Use) (o : LineOrder) (name : Bytes) (lines : List Bytes) : Action Nat := do
  let isWrong (a b : Bytes) : Bool :=
    if use.has 'u' then o.compare a b ≠ .lt else o.compare a b = .gt
  match ((lines.zip (lines.drop 1)).zipIdx.find? fun ((a, b), _) => isWrong a b) with
  | none => return 0
  | some ((_, line), index) =>
    if use.has 'c' then
      remark (name ++ Bytes.ofString s!":{index + 2}: disorder: " ++ line)
    return 1

/-- Puts lines in order. -/
def sort (use : Use) : Action Nat := do
  match lineOrderOf use with
  | .error message =>
    remark message
    return 2
  | .ok order =>
    let names := inputs use
    let (texts, isWhole) ← readInputs names fun name cause =>
      explain (if isOpened name cause then "read failed: " else "cannot read: ") (nameText name)
        (reason cause)
    if !isWhole then return 2
    let rows := texts.map fun (_, text) => barelines text use.lineEnd
    if use.hasAny "cC" then
      match use.operands with
      | _ :: extra :: _ =>
        remark (Bytes.ofString "extra operand " ++ quotedText extra ++
          Bytes.ofString " not allowed with -c")
        return 2
      | _ => return ← checkOrder use order (names.headD []) rows.flatten
    let sorted := if use.has 'm' then order.merge rows else order.sort rows.flatten
    let shown := (if use.has 'u' then order.distinct sorted else sorted).flatMap
      (· ++ [use.lineEnd])
    match use.argument? 'o' with
    | none => return if ← emit shown then 0 else 2
    | some path =>
      let p ← get
      match p.tree.overwrite p.directory path shown (p.rights 0o666) with
      | .ok tree =>
        set (p.setTree tree)
        return 0
      | .error cause =>
        explain "open failed: " (nameText path) (reason cause)
        return 2

def sortOptions : Use.Known :=
  { letters := "bdfgiMnRrVhcCmo:st:uzk:S:T:"
    names := [("ignore-leading-blanks", 'b'), ("dictionary-order", 'd'), ("ignore-case", 'f'),
      ("general-numeric-sort", 'g'), ("ignore-nonprinting", 'i'), ("month-sort", 'M'),
      ("human-numeric-sort", 'h'), ("numeric-sort", 'n'), ("random-sort", 'R'), ("reverse", 'r'),
      ("version-sort", 'V'), ("merge", 'm'), ("output", 'o'), ("stable", 's'),
      ("field-separator", 't'), ("unique", 'u'), ("zero-terminated", 'z'), ("key", 'k')] }

/-- A count that an option gives. -/
def countOption (use : Use) (letter : Char) (what : String) : Except Bytes (Option Nat) :=
  match use.argument? letter with
  | none => .ok none
  | some word =>
    if word.isEmpty || !word.all isDigit then
      .error (word ++ Bytes.ofString s!": invalid number of {what}")
    else .ok (some (decimal word))

/-- The part of a line by which it is compared with the one before it. -/
def comparedPart (use : Use) (fields skipped : Nat) (most : Option Nat) (line : Bytes) : Bytes :=
  let rest := (skipFields none false fields line).drop skipped
  let part := match most with
    | some n => rest.take n
    | none => rest
  if use.has 'i' then part.map fun b => if 0x61 ≤ b && b ≤ 0x7A then b - 0x20 else b else part

/-- Lines in rows of those that are the same. -/
def rowsOfSame (part : Bytes → Bytes) : List Bytes → List (List Bytes)
  | [] => []
  | line :: lines =>
    match rowsOfSame part lines with
    | (next :: others) :: rows =>
      if part next = part line then (line :: next :: others) :: rows
      else [line] :: (next :: others) :: rows
    | rows => [line] :: rows

/-- What is shown of a row of lines that are the same. -/
def repeatedText (use : Use) (row : List Bytes) : Bytes :=
  let isRepeated := 1 < row.length
  let shows := (!use.hasAny "du" && !use.has 'D') || (use.has 'd' && isRepeated && !use.has 'u') ||
    (use.has 'u' && !isRepeated && !use.has 'd')
  let count := digitsOf row.length
  let front := if use.has 'c' then
      List.replicate (7 - count.length) Bytes.space ++ count ++ [Bytes.space]
    else []
  if use.has 'D' then if isRepeated then row.flatMap (· ++ [use.lineEnd]) else []
  else if shows then front ++ row.headD [] ++ [use.lineEnd] else []

/-- Passes on lines without those that are the same as the one before. -/
def uniq (use : Use) : Action Nat := do
  let counts : Except Bytes (Nat × Nat × Option Nat) := do
    let fields ← countOption use 'f' "fields to skip"
    let skipped ← countOption use 's' "bytes to skip"
    return (fields.getD 0, skipped.getD 0, ← countOption use 'w' "bytes to compare")
  match counts, use.operands with
  | .error message, _ =>
    remark message
    return 1
  | .ok _, _ :: _ :: extra :: _ =>
    refuseUse (Bytes.ofString "extra operand " ++ quotedText extra)
    return 1
  | .ok (fields, skipped, most), operands =>
    let (texts, isWhole) ← readInputs [operands.headD inputSign] fun name cause =>
      if isOpened name cause then explain "error reading " (shellQuoted name) (reason cause)
      else tellUnreadable name cause
    if !isWhole then return 1
    let lines := texts.flatMap fun (_, text) => barelines text use.lineEnd
    let rows := rowsOfSame (comparedPart use fields skipped most) lines
    let shown := rows.flatMap (repeatedText use)
    match operands[1]? with
    | none => return if ← emit shown then 0 else 1
    | some path =>
      let p ← get
      match p.tree.overwrite p.directory path shown (p.rights 0o666) with
      | .ok tree =>
        set (p.setTree tree)
        return 0
      | .error cause =>
        explain "" (nameText path) (reason cause)
        return 1

def uniqOptions : Use.Known :=
  { letters := "cdDuif:s:w:z"
    names := [("count", 'c'), ("repeated", 'd'), ("ignore-case", 'i'), ("unique", 'u'),
      ("skip-fields", 'f'), ("skip-chars", 's'), ("check-chars", 'w'), ("zero-terminated", 'z')] }

/-- Lines of two files in order, each with the files that have it: the first, the second or both. -/
def sideBySide : Nat → List Bytes → List Bytes → List (Nat × Bytes)
  | 0, _, _ => []
  | _ + 1, [], lines => lines.map (2, ·)
  | _ + 1, lines, [] => lines.map (1, ·)
  | fuel + 1, a :: first, b :: second =>
    match bytesOrder a b with
    | .lt => (1, a) :: sideBySide fuel first (b :: second)
    | .gt => (2, b) :: sideBySide fuel (a :: first) second
    | .eq => (3, a) :: sideBySide fuel first second

/-- Compares two files that are in order line by line. -/
def comm (use : Use) : Action Nat := do
  match use.operands with
  | [] =>
    refuseUse (Bytes.ofString "missing operand")
    return 1
  | [only] =>
    refuseUse (Bytes.ofString "missing operand after " ++ quotedText only)
    return 1
  | _ :: _ :: extra :: _ =>
    refuseUse (Bytes.ofString "extra operand " ++ quotedText extra)
    return 1
  | names =>
    let (texts, isWhole) ← readInputs names tellUnreadable
    if !isWhole then return 1
    let rows := texts.map fun (_, text) => barelines text use.lineEnd
    let first := rows.headD []
    let second := (rows[1]?).getD []
    let separator := (use.argument? 'ο').getD [Bytes.tab]
    let isHidden (column : Nat) : Bool := use.has (Char.ofNat (48 + column))
    let front (column : Nat) : Bytes :=
      let columns := ([1, 2].filter fun other => other < column && !isHidden other).length
      (List.replicate columns separator).flatten
    let shown := (sideBySide (first.length + second.length + 1) first second).flatMap
      fun (column, line) =>
        if isHidden column then [] else front column ++ line ++ [use.lineEnd]
    let isWrong (lines : List Bytes) : Bool := (lines.zip (lines.drop 1)).any fun (a, b) =>
      bytesOrder a b = .gt
    let written ← emit shown
    let mut isSorted := true
    for (lines, index) in rows.zipIdx do
      if isWrong lines then
        remark (Bytes.ofString s!"file {index + 1} is not in sorted order")
        isSorted := false
    if !isSorted then remark (Bytes.ofString "input is not in sorted order")
    return if written && isSorted then 0 else 1

def commOptions : Use.Known :=
  { letters := "123zο:"
    names := [("output-delimiter", 'ο'), ("zero-terminated", 'z')] }

end Intercept.Shell.Tool
