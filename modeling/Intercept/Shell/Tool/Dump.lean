import Intercept.Shell.Tool.Parts

/-!
# Bytes shown as numbers

The tool that shows bytes as numbers or characters, in rows behind the position of their first
byte. A row can be shown in several columns, whose units stand above one another.
-/

namespace Intercept.Shell.Tool

/-- What a unit is shown as. -/
inductive UnitShape where
  | name
  | character
  | signed
  | unsigned
  | octal
  | hexadecimal
  deriving DecidableEq, Repr

/-- How rows are shown: as units of a size, and perhaps with the characters behind them. -/
structure DumpColumn where
  shape : UnitShape
  size : Nat := 1
  showsText : Bool := false
  deriving DecidableEq, Repr

namespace DumpColumn

/-- The digits of a number in a base, with zeros in front of them up to a width. -/
def baseDigits (base width n : Nat) : Bytes :=
  let digits := Bytes.ofChars (Nat.toDigits base n)
  List.replicate (width - digits.length) 0x30 ++ digits

/-- How many bytes wide the longest unit is. -/
def width (c : DumpColumn) : Nat :=
  match c.shape with
  | .name | .character => 3
  | .octal => (8 * c.size + 2) / 3
  | .hexadecimal => 2 * c.size
  | .unsigned => (digitsOf ((1 <<< (8 * c.size)) - 1)).length
  | .signed => (digitsOf (1 <<< (8 * c.size - 1))).length + 1

/-- The names of the bytes that have no sign. -/
def byteNames : List String :=
  ["nul", "soh", "stx", "etx", "eot", "enq", "ack", "bel", "bs", "ht", "nl", "vt", "ff", "cr",
    "so", "si", "dle", "dc1", "dc2", "dc3", "dc4", "nak", "syn", "etb", "can", "em", "sub", "esc",
    "fs", "gs", "rs", "us", "sp"]

def isPrinted (b : UInt8) : Bool := 0x20 ≤ b && b < 0x7F

/-- A byte as a character, or as what stands for it. -/
def characterText (b : UInt8) : Bytes :=
  let letters := [(0x00, '0'), (0x07, 'a'), (0x08, 'b'), (0x0C, 'f'), (0x0A, 'n'), (0x0D, 'r'),
    (0x09, 't'), (0x0B, 'v')]
  match letters.lookup b.toNat with
  | some letter => Bytes.ofChars ['\\', letter]
  | none => if isPrinted b then [b] else baseDigits 8 3 b.toNat

/-- The text of a unit. -/
def unitText (c : DumpColumn) (n : Nat) : Bytes :=
  match c.shape with
  | .name =>
    let low := n % 128
    if low = 127 then Bytes.ofString "del"
    else (byteNames[low]?).elim [UInt8.ofNat low] Bytes.ofString
  | .character => characterText (UInt8.ofNat n)
  | .octal => baseDigits 8 c.width n
  | .hexadecimal => baseDigits 16 c.width n
  | .unsigned => digitsOf n
  | .signed =>
    let whole := 1 <<< (8 * c.size)
    integerText (if 2 * n < whole then (n : Int) else (n : Int) - whole)

/-- The number of a unit. Bytes that are missing at its end are zero. -/
def unitNumber (c : DumpColumn) (isBigEndian : Bool) (bytes : Bytes) : Nat :=
  let all := bytes ++ List.replicate (c.size - bytes.length) 0
  let fromGreatest := if isBigEndian then all else all.reverse
  fromGreatest.foldl (fun n b => 256 * n + b.toNat) 0

end DumpColumn

/-- How bytes are shown. -/
structure Dump where
  columns : List DumpColumn
  rowSize : Nat
  isBigEndian : Bool := false
  showsAll : Bool := false
  /-- The base and the least number of digits of positions. -/
  positions : Option (Nat × Nat) := some (8, 7)

namespace Dump

/-- How many bytes wide a row of units is, with a blank in front of each. -/
def rowWidth (d : Dump) : Nat :=
  d.columns.foldl (fun most c => max most ((c.width + 1) * (d.rowSize / c.size))) 0

/-- A row of bytes as a column shows it. Blanks between units are spread evenly. -/
def rowText (d : Dump) (c : DumpColumn) (row : Bytes) : Bytes :=
  let count := d.rowSize / c.size
  let missing := (d.rowSize - row.length) / c.size
  let blanks := d.rowWidth - c.width * count
  let left (index : Nat) : Nat := blanks * (count - index) / count
  let unit (index : Nat) : Bytes :=
    let own := (row.drop (index * c.size)).take c.size
    let text := c.unitText (c.unitNumber d.isBigEndian own)
    List.replicate (c.width + left index - left (index + 1) - text.length) Bytes.space ++ text
  let trailer : Bytes :=
    if !c.showsText then []
    else
      List.replicate (missing * c.width + blanks * missing / count) Bytes.space ++
        Bytes.ofString "  >" ++ row.map (fun b => if DumpColumn.isPrinted b then b else 0x2E) ++
        [0x3C]
  (List.range (count - missing)).flatMap unit ++ trailer ++ [Bytes.newline]

/-- A position in front of a row. -/
def positionText (d : Dump) (position : Nat) : Bytes :=
  d.positions.elim [] fun (base, width) => DumpColumn.baseDigits base width position

/-- A row in all columns, behind its position. -/
def rowTexts (d : Dump) (position : Nat) (row : Bytes) : Bytes :=
  let indent := List.replicate (d.positions.elim 0 (·.2)) Bytes.space
  let texts := d.columns.map (d.rowText · row)
  (texts.zipIdx.map fun (text, index) =>
    (if index = 0 then d.positionText position else indent) ++ text).flatten

/-- The rows of some bytes, and the position behind them. Rows that are like the one before them
are left out, but for a star. The first argument bounds the number of rows. -/
def rows (d : Dump) : Nat → Nat → Option Bytes → Bool → Bytes → Bytes
  | 0, _, _, _, _ => []
  | fuel + 1, position, before, isLeftOut, bytes =>
    let row := bytes.take d.rowSize
    let rest := bytes.drop d.rowSize
    let next := position + row.length
    if row.isEmpty then
      if d.positions.isNone then [] else d.positionText position ++ [Bytes.newline]
    else if !d.showsAll && before = some row && row.length = d.rowSize then
      let star : Bytes := if isLeftOut then [] else [0x2A, Bytes.newline]
      star ++ d.rows fuel next before true rest
    else d.rowTexts position row ++ d.rows fuel next (some row) false rest

end Dump

/-- The options of the tool, and those that stand for columns. -/
def dumpOptions : Use.Known :=
  { letters := "A:j:N:t:vw:E:abcdhilosxBDHILOX"
    names := [("address-radix", 'A'), ("skip-bytes", 'j'), ("read-bytes", 'N'), ("format", 't'),
      ("output-duplicates", 'v'), ("width", 'w'), ("endian", 'E')] }

/-- Columns that letters stand for. -/
def dumpShorthands : List (Char × String) :=
  [('a', "a"), ('b', "o1"), ('c', "c"), ('d', "u2"), ('h', "x2"), ('i', "d4"), ('l', "d8"),
    ('o', "o2"), ('s', "d2"), ('x', "x2"), ('B', "o2"), ('D', "u4"), ('H', "x4"), ('I', "d8"),
    ('L', "d8"), ('O', "o4"), ('X', "x4")]

/-- The size of the units of a column, from letters or digits, and what follows; four bytes where
it is not given. -/
def unitSize (text : Bytes) : Nat × Bytes :=
  let (digits, rest) := text.span isDigit
  if !digits.isEmpty then (decimal digits, rest)
  else
    match text with
    | letter :: rest =>
      match [('C', 1), ('S', 2), ('I', 4), ('L', 8)].lookup (Bytes.asChar letter) with
      | some size => (size, rest)
      | none => (4, text)
    | [] => (4, [])

/-- The columns that a text asks for. The first argument bounds their number. -/
def dumpColumns (whole : Bytes) : Nat → Bytes → Except Bytes (List DumpColumn)
  | 0, _ => .ok []
  | _, [] => .ok []
  | fuel + 1, letter :: rest => do
    let shapes : List (Char × UnitShape) :=
      [('a', .name), ('c', .character), ('d', .signed), ('u', .unsigned), ('o', .octal),
        ('x', .hexadecimal)]
    match shapes.lookup (Bytes.asChar letter) with
    | none =>
      .error (Bytes.ofString "invalid character '" ++
        letter :: Bytes.ofString "' in type string " ++ quotedText whole)
    | some shape =>
      let (size, rest) := if shape = .name || shape = .character then (1, rest) else unitSize rest
      if ¬ [1, 2, 4, 8].contains size then
        .error (Bytes.ofString "invalid type string " ++ quotedText whole ++
          Bytes.ofString s!";\nthis system doesn't provide a {size}-byte integral type")
      else
        let (showsText, rest) := match rest with
          | 0x7A :: rest => (true, rest)
          | rest => (false, rest)
        return { shape, size, showsText } :: (← dumpColumns whole fuel rest)

/-- A number of bytes, in the base that its front tells, and what letters multiply it by. -/
def dumpCount? (word : Bytes) : Option Nat :=
  let (base, text) := match word with
    | 0x30 :: x :: rest => if x = 0x78 || x = 0x58 then (16, rest) else (8, x :: rest)
    | _ => (10, word)
  let (digits, letters) := text.span fun b => digitValue b < base
  let multiplier := Amount.multipliers.find? fun (name, _) => Bytes.ofString name = letters
  match digits, multiplier with
  | [], _ => none
  | _, some (_, n) => some (digitsValue base digits * n)
  | _, none => none

/-- A word in which the option for the length of rows has an argument of its own, the usual one
where it has none. -/
def withOwnWidth (word : Bytes) : List Bytes :=
  let usual := Bytes.ofString "32"
  match word with
  | 0x2D :: 0x2D :: rest =>
    if rest = Bytes.ofString "width" then [word ++ Bytes.equalsSign :: usual] else [word]
  | 0x2D :: letters =>
    let front := letters.takeWhile fun b => (Bytes.ofString "vabcdhilosxBDHILOX").contains b
    match letters.drop front.length with
    | [0x77] => [word ++ usual]
    | _ => [word]
  | _ => [word]

/-- A position in the manner of older days: octal, with a point decimal, and in blocks behind `b`.
-/
def olderPosition? (word : Bytes) : Option Nat :=
  let text := if word.head? = some 0x2B then word.drop 1 else word
  let (text, unit) := if text.getLast? = some 0x62 then (text.dropLast, 512) else (text, 1)
  let (base, digits) :=
    if text.getLast? = some 0x2E then (10, text.dropLast)
    else match text with
      | 0x30 :: 0x78 :: rest => (16, rest)
      | _ => (8, text)
  if digits.isEmpty || digits.any (fun b => base ≤ digitValue b) then none
  else some (digitsValue base digits * unit)

/-- The number of bytes that the last option of a letter asks for. -/
def dumpAmount (use : Use) (letter : Char) : Except Bytes (Option Nat) :=
  match use.argument? letter with
  | none => .ok none
  | some word =>
    match dumpCount? word with
    | some n => .ok (some n)
    | none => .error (Bytes.ofString s!"invalid -{letter} argument " ++ quotedText word)

/-- What the options ask for. -/
def dumpOfUse (use : Use) : Except Bytes Dump := do
  let positions ← match use.argument? 'A' with
    | none => .ok (some (8, 7))
    | some word =>
      match word.head?.map Bytes.asChar with
      | some 'o' => .ok (some (8, 7))
      | some 'd' => .ok (some (10, 7))
      | some 'x' => .ok (some (16, 6))
      | some 'n' => .ok none
      | first =>
        .error (Bytes.ofString s!"invalid output address radix '{first.getD (Char.ofNat 0)}'; " ++
          Bytes.ofString "it must be one character from [doxn]")
  let own ← use.options.mapM fun (letter, argument) =>
    if letter = 't' then dumpColumns argument (argument.length + 1) argument
    else
      let text := Bytes.ofString ((dumpShorthands.lookup letter).getD "")
      dumpColumns text (text.length + 1) text
  let columns := if own.flatten.isEmpty then [{ shape := .octal, size := 2 }] else own.flatten
  let unit := columns.foldl (fun most c => max most c.size) 1
  let rowSize ← dumpAmount use 'w'
  let isBigEndian := (use.argument? 'E').any fun word => word.head? = some 0x62
  return { columns, positions, isBigEndian, showsAll := use.has 'v'
           rowSize := rowSize.getD (16 / unit * unit) }

/-- Shows the bytes of files, one behind the other. -/
def dump (use : Use) : Action Nat := do
  let request := do return (← dumpOfUse use, ← dumpAmount use 'j', ← dumpAmount use 'N')
  match request with
  | .error message =>
    remark message
    return 1
  | .ok (d, skipped, limit) =>
    let isModern := use.hasAny "AjNtvwE"
    let (older, names) := match use.operands with
      | [one] =>
        if !isModern && one.head? = some 0x2B then (olderPosition? one, []) else (none, [one])
      | [file, two] =>
        let isOlder := !isModern && two.head?.any fun b => b = 0x2B || isDigit b
        if isOlder && (olderPosition? two).isSome then (olderPosition? two, [file])
        else (none, [file, two])
      | operands => (none, operands)
    let skipped := (older <|> skipped).getD 0
    let unit := d.columns.foldl (fun most c => max most c.size) 1
    let isFit := 0 < d.rowSize && d.rowSize % unit = 0
    if !isFit then
      remark (Bytes.ofString s!"warning: invalid width {d.rowSize}; using {unit} instead")
    let d := if isFit then d else { d with rowSize := unit }
    let mut bytes : Bytes := []
    let mut isWhole := true
    let mut isOpen := false
    let reach := limit.map (skipped + ·)
    for name in inputs { use with operands := names } do
      if reach.all (bytes.length < ·) then
        match contentsOfName (← get) name with
        | .ok text =>
          let own := reach.elim text fun most => text.take (most - bytes.length)
          takeFrom name own.length
          bytes := bytes ++ own
          isOpen := true
        | .error cause =>
          tellUnreadable name cause
          isWhole := false
          if isOpened name cause then isOpen := true
    if !isOpen then return 1
    if bytes.length < skipped then
      remark (Bytes.ofString "cannot skip past end of combined input")
      return 1
    let shown := bytes.drop skipped
    if !(← emit (d.rows (shown.length + 1) skipped none false shown)) then return 1
    return if isWhole then 0 else 1

/-- The tool that shows bytes as numbers. -/
def od (words : List Bytes) : Action Nat :=
  let front := words.takeWhile (· ≠ [0x2D, 0x2D])
  withUse dumpOptions 1 dump (front.flatMap withOwnWidth ++ words.drop front.length)

end Intercept.Shell.Tool
