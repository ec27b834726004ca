import Intercept.Shell.Tool.Ends

/-!
# Parts of lines

Tools that pass on parts of each line, and that put lines of several files side by side.
-/

namespace Intercept.Shell.Tool

/-- Reads inputs one after the other. Those that cannot be read are told of. -/
def readInputs (names : List Bytes) (tell : Bytes → Cause → Action Unit) :
    Action (List (Bytes × Bytes) × Bool) := do
  let mut texts : List (Bytes × Bytes) := []
  let mut isWhole := true
  for name in names do
    match contentsOfName (← get) name with
    | .ok text =>
      takeFrom name text.length
      texts := texts ++ [(name, text)]
    | .error cause =>
      tell name cause
      isWhole := false
  return (texts, isWhole)

/-- Tells of an input by its name. -/
def tellUnreadable (name : Bytes) (cause : Cause) : Action Unit :=
  explain "" (nameText name) (reason cause)

/-- The lines of a text without their ends. -/
def barelines (text : Bytes) (ending : UInt8) : List Bytes :=
  (linesOf text ending).map fun line => if line.getLast? = some ending then line.dropLast else line

/-- Numbers from a first one to a last one, if there is one. -/
structure Range where
  first : Nat
  last : Option Nat
  deriving DecidableEq, Repr

namespace Range

def contains (range : Range) (n : Nat) : Bool := range.first ≤ n && range.last.all (n ≤ ·)

/-- The greatest number that can be asked for. -/
def greatest : Nat := 18446744073709551614

/-- A range of positions, or of fields. A failure is a message. -/
def read (ofFields : Bool) (text : Bytes) : Except Bytes Range :=
  let fromOne := if ofFields then "fields are numbered from 1"
    else "byte/character positions are numbered from 1"
  let number (digits : Bytes) : Except Bytes Nat :=
    let rest := digits.dropWhile isDigit
    if !rest.isEmpty then
      .error (Bytes.ofString
        (if ofFields then "invalid field value " else "invalid byte/character position ") ++
          quotedText rest)
    else if greatest < decimal digits then
      .error (Bytes.ofString (if ofFields then "field number " else "byte/character offset ") ++
        quotedText digits ++ Bytes.ofString " is too large")
    else .ok (decimal digits)
  let positive (digits : Bytes) : Except Bytes Nat := do
    let n ← number digits
    if n = 0 then .error (Bytes.ofString fromOne) else .ok n
  match Bytes.splitAt 0x2D text with
  | [single] => do
    let n ← positive single
    return ⟨n, some n⟩
  | [[], []] => .error (Bytes.ofString "invalid range with no endpoint: -")
  | [first, []] => do return ⟨← positive first, none⟩
  | [first, last] => do
    let start ← if first.isEmpty then .ok 1 else positive first
    let stop ← number last
    if stop < start then .error (Bytes.ofString "invalid decreasing range")
    return ⟨start, some stop⟩
  | _ => .error (Bytes.ofString
      (if ofFields then "invalid field range" else "invalid byte or character range"))

/-- The ranges of a list, between commas or blanks. -/
def readList (ofFields : Bool) (text : Bytes) : Except Bytes (List Range) :=
  let parts := Bytes.splitAt 0x2C (text.map fun b => if isBlank b then 0x2C else b)
  parts.mapM (read ofFields)

end Range

/-- What is passed on of each line. -/
structure Cutting where
  /-- The byte between fields, if there are fields. -/
  delimiter : Option UInt8
  ranges : List Range
  inverted : Bool := false
  /-- Whether lines without the delimiter are left out. -/
  onlyDelimited : Bool := false
  /-- What stands between parts that do not follow each other, or between fields. -/
  between : Bytes := []
  lineEnd : UInt8 := Bytes.newline

namespace Cutting

def selects (c : Cutting) (n : Nat) : Bool := c.ranges.any (·.contains n) != c.inverted

/-- Whether a range begins at a number, so that it is set apart from what is before it. -/
def begins (c : Cutting) (n : Nat) : Bool :=
  c.selects n && (!c.selects (n - 1) || n = 1 ||
    (!c.inverted && c.ranges.any (·.first = n) &&
      !c.ranges.any fun range => range.first < n && range.contains n && range.last.all (n ≤ ·)))

/-- The bytes of a line that are passed on. -/
def ofBytes (c : Cutting) (line : Bytes) : Bytes :=
  (line.zipIdx.foldl (fun (text, isFirst) (b, index) =>
    let n := index + 1
    if !c.selects n then (text, isFirst)
    else if c.begins n && !isFirst then (text ++ c.between ++ [b], false)
    else (text ++ [b], false)) (([], true) : Bytes × Bool)).1

/-- What is passed on of a line, if anything is. -/
def line? (c : Cutting) (line : Bytes) : Option Bytes :=
  match c.delimiter with
  | none => some (c.ofBytes line)
  | some delimiter =>
    if !line.contains delimiter then if c.onlyDelimited then none else some line
    else
      let fields := (Bytes.splitAt delimiter line).zipIdx.filter fun (_, index) =>
        c.selects (index + 1)
      some ((fields.map (·.1)).intersperse c.between).flatten

end Cutting

/-- What options ask to be passed on. A failure is a message. -/
def cuttingOf (use : Use) : Except Bytes Cutting := do
  let lists := use.options.filter fun (letter, _) => "bcf".toList.contains letter
  let fail (message : String) : Except Bytes Cutting := .error (Bytes.ofString message)
  match lists with
  | [] => fail "you must specify a list of bytes, characters, or fields"
  | [(letter, list)] =>
    let ofFields := letter = 'f'
    let given := use.argument? 'd'
    if (given.getD []).length > 1 then fail "the delimiter must be a single character"
    else if !ofFields && given.isSome then
      fail "an input delimiter may be specified only when operating on fields"
    else if !ofFields && use.has 's' then
      fail "suppressing non-delimited lines makes sense\n\tonly when operating on fields"
    else
      let ranges ← Range.readList ofFields list
      let delimiter := (given.getD [Bytes.tab]).headD 0
      return { delimiter := if ofFields then some delimiter else none
               ranges
               inverted := use.has 'κ'
               onlyDelimited := use.has 's'
               between := (use.argument? 'ο').getD (if ofFields then [delimiter] else [])
               lineEnd := use.lineEnd }
  | _ => fail "only one list may be specified"

/-- Passes on parts of each line. -/
def cut (use : Use) : Action Nat := do
  match cuttingOf use with
  | .error message =>
    refuseUse message
    return 1
  | .ok cutting =>
    let (texts, isWhole) ← readInputs (inputs use) tellUnreadable
    let lines := texts.flatMap fun (_, text) => barelines text cutting.lineEnd
    let shown := (lines.filterMap cutting.line?).flatMap (· ++ [cutting.lineEnd])
    return if (← emit shown) && isWhole then 0 else 1

def cutOptions : Use.Known :=
  { letters := "b:c:d:f:nszκο:"
    names := [("bytes", 'b'), ("characters", 'c'), ("delimiter", 'd'), ("fields", 'f'),
      ("only-delimited", 's'), ("zero-terminated", 'z'), ("complement", 'κ'),
      ("output-delimiter", 'ο')] }

/-- The bytes between columns, in turn, as a text with backslashes gives them; none for an empty
one. -/
def columnSeparators : Bytes → List Bytes
  | [] => []
  | 0x5C :: letter :: rest =>
    let own : Bytes := match Bytes.asChar letter with
      | '0' => []
      | 'n' => [Bytes.newline]
      | 't' => [Bytes.tab]
      | 'b' => [0x08]
      | 'f' => [0x0C]
      | 'r' => [0x0D]
      | 'v' => [0x0B]
      | _ => [letter]
    own :: columnSeparators rest
  | b :: rest => [b] :: columnSeparators rest

/-- Columns with separators between them, taken in turn. -/
def besideOneAnother (separators : List Bytes) (columns : List Bytes) : Bytes :=
  (columns.zipIdx.map fun (column, index) =>
    if index = 0 then column
    else ((separators[(index - 1) % max 1 separators.length]?).getD []) ++ column).flatten

/-- The lines of each input, where those of the standard input go to all that stand for it in
turn. -/
def inTurn (read : List (Bytes × List Bytes)) : List (List Bytes) :=
  let shared := (read.find? (·.1 = inputSign)).elim [] (·.2)
  let count := (read.filter (·.1 = inputSign)).length
  (read.foldl (fun (files, seen) (name, lines) =>
    if name = inputSign then
      let own := shared.zipIdx.filter fun (_, index) => index % count = seen
      (files ++ [own.map (·.1)], seen + 1)
    else (files ++ [lines], seen)) (([], 0) : List (List Bytes) × Nat)).1

/-- Puts lines of files side by side, or all lines of each file on one line. -/
def paste (use : Use) : Action Nat := do
  let given := use.argument? 'd'
  let separators := columnSeparators (match given with
    | none => [Bytes.tab]
    | some [] => Bytes.ofString "\\0"
    | some text => text)
  let backslashes := ((given.getD []).reverse.takeWhile (· = 0x5C)).length
  if backslashes % 2 = 1 then
    remark (Bytes.ofString "delimiter list ends with an unescaped backslash: " ++ given.getD [])
    return 1
  let (texts, isWhole) ← readInputs (inputs use) tellUnreadable
  if !isWhole && !use.has 's' then return 1
  let read := texts.map fun (name, text) => (name, barelines text use.lineEnd)
  let files := if use.has 's' then read.map (·.2) else inTurn read
  let rows : List (List Bytes) :=
    if use.has 's' then files.map fun lines => if lines.isEmpty then [[]] else lines
    else
      let count := (files.map (·.length)).foldl max 0
      (List.range count).map fun n => files.map fun lines => (lines[n]?).getD []
  let shown := rows.flatMap fun row => besideOneAnother separators row ++ [use.lineEnd]
  return if (← emit shown) && isWhole then 0 else 1

def pasteOptions : Use.Known :=
  { letters := "d:sz"
    names := [("delimiters", 'd'), ("serial", 's'), ("zero-terminated", 'z')] }

end Intercept.Shell.Tool
