import Intercept.Shell.Tool.Inputs

/-!
# The ends of texts

Tools that pass on the first or the last lines or bytes of what they read.
-/

namespace Intercept.Shell.Tool

/-- The lines of a text, each with the byte that ends it. -/
def linesOf (text : Bytes) (ending : UInt8 := Bytes.newline) : List Bytes :=
  let parts := Bytes.splitAt ending text
  let last := parts.getLastD []
  parts.dropLast.map (· ++ [ending]) ++ if last.isEmpty then [] else [last]

/-- The options of these tools. -/
def endsOptions : Use.Known :=
  { letters := "n:c:qvz"
    names := [("bytes", 'c'), ("lines", 'n'), ("quiet", 'q'), ("silent", 'q'), ("verbose", 'v'),
      ("zero-terminated", 'z')] }

/-- How many lines or bytes are asked for, and the sign in front of the number. -/
structure Amount where
  isBytes : Bool := false
  sign : Option UInt8 := none
  count : Nat := 10

namespace Amount

/-- What the letters behind a number multiply it by. -/
def multipliers : List (String × Nat) :=
  [("", 1), ("b", 512), ("kB", 1000), ("k", 1024), ("K", 1024), ("KiB", 1024), ("MB", 1000000),
    ("M", 1048576), ("MiB", 1048576), ("GB", 1000000000), ("G", 1073741824), ("GiB", 1073741824)]

/-- A number with letters behind it. -/
def count? (word : Bytes) : Option Nat :=
  let (digits, letters) := word.span isDigit
  let multiplier := multipliers.find? fun (name, _) => Bytes.ofString name = letters
  match digits, multiplier with
  | [], _ => none
  | _, some (_, n) => some (decimal digits * n)
  | _, none => none

/-- The amount that options ask for. A failure is a message. -/
def ofUse? (use : Use) : Except Bytes Amount :=
  let isBytes := use.has 'c'
  match use.argument? (if isBytes then 'c' else 'n') with
  | none => .ok {}
  | some word =>
    let sign := word.head?.filter fun b => b = 0x2B || b = 0x2D
    match count? (if sign.isSome then word.drop 1 else word) with
    | some count => .ok { isBytes, sign, count }
    | none =>
      let units := if isBytes then "bytes" else "lines"
      let shown := if sign = some 0x2D then word.drop 1 else word
      .error (Bytes.ofString s!"invalid number of {units}: " ++ quotedText shown)

/-- The first of some things; behind a minus sign all but so many at the end. -/
def firstOf {α : Type} (amount : Amount) (things : List α) : List α :=
  things.take (if amount.sign = some 0x2D then things.length - amount.count else amount.count)

/-- The last of some things; behind a plus sign those from the one of that number on. -/
def lastOf {α : Type} (amount : Amount) (things : List α) : List α :=
  things.drop (if amount.sign = some 0x2B then amount.count - 1 else things.length - amount.count)

end Amount

/-- Passes on the parts of files that a function picks, each behind the file's name where there are
several. Another function says how many bytes of the input are read for a part. -/
def passParts (pick : Amount → Bytes → Bytes) (reach : Amount → Bytes → Bytes → Action Nat)
    (tellUnread : Bytes → Cause → Action Unit) (use : Use) : Action Nat := do
  let amount ← match Amount.ofUse? use with
    | .ok amount => pure amount
    | .error message =>
      remark message
      return 1
  let names := inputs use
  let isTitled := (names.length > 1 || use.has 'v') && !use.has 'q'
  let mut status := 0
  let mut isFirst := true
  for name in names do
    let title : Bytes :=
      if isTitled then
        Bytes.ofString ((if isFirst then "" else "\n") ++ "==> ") ++ titleOf name ++
          Bytes.ofString " <==\n"
      else []
    match contentsOfName (← get) name with
    | .ok text =>
      isFirst := false
      let part := pick amount text
      takeFrom name (← reach amount text part)
      if !(← emit (title ++ part)) then return 1
    | .error cause =>
      status := 1
      if isOpened name cause then
        isFirst := false
        if !(← emit title) then return 1
        tellUnread name cause
      else
        let shown := shellQuoted (titleOf name)
        explain "cannot open " (shown ++ Bytes.ofString " for reading") (reason cause)
  closeInput use "-" status

/-- How many bytes are read at once where one cannot go back. -/
def blockLength : Nat := 8192

/-- Passes on the first lines or bytes of files. Of a file, nothing behind them counts as read. -/
def head (use : Use) : Action Nat :=
  passParts
    (fun amount text =>
      if amount.isBytes then amount.firstOf text
      else (amount.firstOf (linesOf text use.lineEnd)).flatten)
    (fun amount text part => do
      let isExact := amount.isBytes && amount.sign ≠ some 0x2D
      if isExact || ((← get).fileAt? 0).isSome then return part.length
      if amount.sign = some 0x2D then return text.length
      return min text.length ((part.length + blockLength - 1) / blockLength * blockLength))
    (fun name cause => explain "error reading " (shellQuoted (titleOf name)) (reason cause))
    use

/-- Passes on the last lines or bytes of files. -/
def tail (use : Use) : Action Nat :=
  passParts
    (fun amount text =>
      if amount.isBytes then amount.lastOf text
      else (amount.lastOf (linesOf text use.lineEnd)).flatten)
    (fun _ text _ => return text.length)
    (fun name cause => do
      let isClosed := name = inputSign && ((← get).channels.lookup 0).isNone
      explain (if isClosed then "cannot fstat " else "error reading ")
        (shellQuoted (titleOf name)) (reason cause))
    use

/-- Options in place of a word that consists of a number and letters: for bytes or lines, for a
multiple of the number, or for titles. A failure is the first other letter. -/
def ofOldWord (sign digits : Bytes) (letters : Bytes) : Except UInt8 (List Bytes) :=
  let start : Bytes × Bytes × List Bytes := (Bytes.ofString "-n", [], [])
  let read : Except UInt8 (Bytes × Bytes × List Bytes) :=
    letters.foldlM (fun (unit, multiple, titles) letter =>
      match Bytes.asChar letter with
      | 'c' => .ok (Bytes.ofString "-c", [], titles)
      | 'b' => .ok (Bytes.ofString "-c", [letter], titles)
      | 'k' => .ok (Bytes.ofString "-c", [letter], titles)
      | 'm' => .ok (Bytes.ofString "-c", Bytes.ofString "M", titles)
      | 'l' => .ok (Bytes.ofString "-n", multiple, titles)
      | 'q' => .ok (unit, multiple, [Bytes.ofString "-q"])
      | 'v' => .ok (unit, multiple, [Bytes.ofString "-v"])
      | _ => .error letter) start
  read.map fun (unit, multiple, titles) => unit :: (sign ++ digits ++ multiple) :: titles

/-- The first lines or bytes, where the first word may begin with the number of them. -/
def headOfWords (words : List Bytes) : Action Nat := do
  match words with
  | (0x2D :: text) :: others =>
    match text.span isDigit with
    | ([], _) => withUse endsOptions 1 head words
    | (digits, letters) =>
      match ofOldWord [] digits letters with
      | .ok own => withUse endsOptions 1 head (own ++ others)
      | .error letter =>
        refuseUse (Bytes.ofString "invalid trailing option -- " ++ [letter])
        return 1
  | _ => withUse endsOptions 1 head words

/-- The last lines or bytes, where the first word may begin with the number of them if there is one
file at most. -/
def tailOfWords (words : List Bytes) : Action Nat := do
  let isShort (others : List Bytes) : Bool :=
    match others with
    | [] => true
    | [other] => other = inputSign || other.head? ≠ some 0x2D
    | _ => false
  match words with
  | (sign :: text) :: others =>
    let (digits, letters) := text.span isDigit
    let unit? : Option (String × Nat) := match letters with
      | [] => if digits.isEmpty then none else some ("-n", 1)
      | [0x6C] => some ("-n", 1)
      | [0x62] => some ("-c", 512)
      | [0x63] => if digits.isEmpty && sign = 0x2D then none else some ("-c", 1)
      | _ => none
    match unit? with
    | none => withUse endsOptions 1 tail words
    | some (unit, multiple) =>
      let count := (if digits.isEmpty then 10 else decimal digits) * multiple
      let amount := (if sign = 0x2B then [sign] else []) ++ digitsOf count
      if sign ≠ 0x2B && sign ≠ 0x2D then withUse endsOptions 1 tail words
      else if isShort others then
        withUse endsOptions 1 tail (Bytes.ofString unit :: amount :: others)
      else if sign = 0x2D && !digits.isEmpty then
        remark (Bytes.ofString "option used in invalid context -- " ++ digits.take 1)
        return 1
      else withUse endsOptions 1 tail words
  | _ => withUse endsOptions 1 tail words

end Intercept.Shell.Tool
