import Intercept.Shell.Tool.Inputs

/-!
# Counting

The tool that counts lines, words and bytes, and measures the longest line.
-/

namespace Intercept.Shell.Tool

/-- The number of words in a text. -/
def wordCount (text : Bytes) : Nat :=
  (text.foldl (fun (count, inside) b =>
    let isInside := !isSpace b
    (if isInside && !inside then count + 1 else count, isInside)) (0, false)).1

/-- The number of columns that the longest line takes. A tab goes on to the next multiple of eight,
and other bytes without a visible form take none. -/
def longestLine (text : Bytes) : Nat :=
  let (longest, last) := text.foldl (fun (longest, column) b =>
    if b = Bytes.newline || b = 0x0C || b = 0x0D then (max longest column, 0)
    else if b = Bytes.tab then (longest, (column / 8 + 1) * 8)
    else (longest, if isPrintable b then column + 1 else column)) (0, 0)
  max longest last

/-- The letters of the counts, in the order in which they are shown. -/
def countLetters : List Char := ['l', 'w', 'm', 'c', 'L']

def wcOptions : Use.Known :=
  { letters := "lwcmL"
    names := [("bytes", 'c'), ("chars", 'm'), ("lines", 'l'), ("words", 'w'),
      ("max-line-length", 'L')] }

/-- The count of a letter. -/
def countOf (text : Bytes) (letter : Char) : Nat :=
  match letter with
  | 'l' => text.count Bytes.newline
  | 'w' => wordCount text
  | 'L' => longestLine text
  | _ => text.length

/-- The size of a file, or none where something else is read; an error if there is nothing. -/
def sizeOfName (p : Process) (name : Bytes) : Option (Option Nat) :=
  let ofNode : Files.Node → Option Nat
    | .file contents => some contents.length
    | _ => none
  if name = inputSign then
    match p.fileAt? 0, p.channels.lookup 0 with
    | some (_, file), _ => some ((p.nodeOf? file).bind ofNode)
    | none, some _ => some none
    | none, none => none
  else (p.tree.node? p.directory name).map fun (_, node) => ofNode node

/-- The width of the columns: that of the size of all files together, and more where something else
is read. A single count is not aligned. -/
def countWidth (p : Process) (use : Use) (letters : List Char) : Nat :=
  if letters.length = 1 && use.operands.length ≤ 1 then 1
  else
    let sizes := (inputs use).filterMap (sizeOfName p)
    let total := (sizes.filterMap id).foldl (· + ·) 0
    max (digitsOf total).length (if sizes.contains none then 7 else 1)

/-- Counts what is in files. -/
def wc (use : Use) : Action Nat := do
  let asked := countLetters.filter use.has
  let shown := if asked.isEmpty then ['l', 'w', 'c'] else asked
  let width := countWidth (← get) use shown
  let mut status := 0
  let mut rows : List (List Nat × Bytes) := []
  for name in inputs use do
    match contentsOfName (← get) name with
    | .ok text =>
      takeFrom name text.length
      rows := rows ++ [(shown.map (countOf text), name)]
    | .error cause =>
      status := 1
      let named := if name = inputSign then shellQuoted (titleOf name) else nameText name
      explain "" named (reason cause)
      if isOpened name cause then rows := rows ++ [(shown.map fun _ => 0, name)]
  let sum (letter : Char) (n m : Nat) : Nat := if letter = 'L' then max n m else n + m
  let total := rows.foldl (fun sums (counts, _) =>
    List.zipWith (fun letter (n, m) => sum letter n m) shown (sums.zip counts))
    (shown.map fun _ => 0)
  let all := if use.operands.length > 1 then rows ++ [(total, Bytes.ofString "total")] else rows
  let column (n : Nat) : Bytes :=
    List.replicate (width - (digitsOf n).length) Bytes.space ++ digitsOf n
  let line (row : List Nat × Bytes) : Bytes :=
    Bytes.joinWith Bytes.space (row.1.map column) ++
      (if use.operands.isEmpty then [] else Bytes.space :: row.2) ++ [Bytes.newline]
  if !(← emit (all.flatMap line)) then return 1
  closeInput use "-" status

end Intercept.Shell.Tool
