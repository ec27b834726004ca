import Intercept.Shell.Tool.Parts

/-!
# Lines laid out anew

Tools that turn lines or their order round, number them, and cut long ones.
-/

namespace Intercept.Shell.Tool

/-- Passes on files with their lines in the other order. -/
def tac (use : Use) : Action Nat := do
  let (texts, isWhole) ← readInputs (inputs use) fun name cause =>
    if isOpened name cause then
      explain "" (nameText name) s!"read error: {Errno.invalidArgument.description}"
    else
      explain "failed to open " (shellQuoted name ++ Bytes.ofString " for reading") (reason cause)
  let shown := texts.flatMap fun (_, text) => (linesOf text).reverse.flatten
  return if (← emit shown) && isWhole then 0 else 1

/-- Passes on files with the bytes of each line in the other order. -/
def rev (use : Use) : Action Nat := do
  let (texts, isWhole) ← readInputs (inputs use) fun name cause =>
    explain "cannot open " name (reason cause)
  let turn (line : Bytes) : Bytes :=
    if line.getLast? = some Bytes.newline then line.dropLast.reverse ++ [Bytes.newline]
    else line.reverse
  let shown := texts.flatMap fun (_, text) => (linesOf text).flatMap turn
  return if (← emit shown) && isWhole then 0 else 1

/-- Which lines get a number. -/
inductive Numbering where
  | all
  | filled
  | none
  deriving DecidableEq, Repr

/-- Files with numbers in front of their lines. -/
def nl (use : Use) : Action Nat := do
  let numbering : Numbering := match use.argument? 'b' with
    | some [0x61] => .all
    | some [0x6E] => .none
    | _ => .filled
  let number (letter : Char) (usual : Nat) : Nat :=
    ((use.argument? letter).bind number?).getD usual
  let width := number 'w' 6
  let separator := (use.argument? 's').getD [Bytes.tab]
  let format := (use.argument? 'n').getD (Bytes.ofString "rn")
  let label (n : Nat) : Bytes :=
    let digits := digitsOf n
    let fill (b : UInt8) : Bytes := List.replicate (width - digits.length) b
    if format = Bytes.ofString "ln" then digits ++ fill Bytes.space
    else if format = Bytes.ofString "rz" then fill 0x30 ++ digits
    else fill Bytes.space ++ digits
  let (texts, isWhole) ← readInputs (inputs use) tellUnreadable
  let lines := texts.flatMap fun (_, text) => barelines text Bytes.newline
  let (shown, _) := lines.foldl (fun (shown, n) line =>
    let counts := numbering = .all || (numbering = .filled && !line.isEmpty)
    if counts then
      (shown ++ [label n ++ separator ++ line ++ [Bytes.newline]], n + number 'i' 1)
    else
      let blanks : Bytes := List.replicate (width + separator.length) Bytes.space
      (shown ++ [blanks ++ line ++ [Bytes.newline]], n))
    (([], number 'v' 1) : List Bytes × Nat)
  return if (← emit shown.flatten) && isWhole then 0 else 1

/-- The column behind a byte. -/
def columnBehind (column : Nat) (b : UInt8) : Nat :=
  if b = 0x08 then column - 1
  else if b = 0x0D then 0
  else if b = Bytes.tab then (column / 8 + 1) * 8
  else column + 1

/-- A line cut so that no part is wider than so many columns, behind a blank if that is asked
for. -/
def folded (width : Nat) (atBlanks : Bool) : Nat → Nat → Bytes → Bytes → Bytes
  | 0, _, part, rest => part.reverse ++ rest
  | _ + 1, _, part, [] => part.reverse
  | fuel + 1, column, part, b :: rest =>
    let next := columnBehind column b
    if next ≤ width || part.isEmpty then folded width atBlanks fuel next (b :: part) rest
    else
      let behindBlank := part.takeWhile (!isBlank ·)
      let cut := if atBlanks && behindBlank.length < part.length then
          part.drop behindBlank.length
        else part
      let left := part.take (part.length - cut.length)
      let restart := (left.reverse).foldl columnBehind 0
      cut.reverse ++ Bytes.newline :: folded width atBlanks fuel restart left (b :: rest)

/-- Cuts long lines. -/
def fold (use : Use) : Action Nat := do
  let given := use.argument? 'w'
  match given.getD (Bytes.ofString "80") |> number? with
  | none =>
    remark (Bytes.ofString "invalid number of columns: " ++ quotedText (given.getD []))
    return 1
  | some 0 =>
    explain "invalid number of columns: " (quotedText (given.getD []))
      Errno.outOfRange.description
    return 1
  | some width =>
    let (texts, isWhole) ← readInputs (inputs use) tellUnreadable
    let cut (line : Bytes) : Bytes :=
      let own := if line.getLast? = some Bytes.newline then line.dropLast else line
      folded width (use.has 's') (2 * own.length + 2) 0 [] own ++ line.drop own.length
    let shown := texts.flatMap fun (_, text) => (linesOf text).flatMap cut
    return if (← emit shown) && isWhole then 0 else 1

/-- Files with blanks in the place of tabs. -/
def expand (use : Use) : Action Nat := do
  let width := max 1 (((use.argument? 't').bind number?).getD 8)
  let (texts, isWhole) ← readInputs (inputs use) tellUnreadable
  let wide (line : Bytes) : Bytes :=
    (line.foldl (fun (shown, column) b =>
      if b = Bytes.tab then
        let gap := width - column % width
        (shown ++ List.replicate gap Bytes.space, column + gap)
      else (shown ++ [b], column + 1)) (([], 0) : Bytes × Nat)).1
  let shown := texts.flatMap fun (_, text) => (linesOf text).flatMap wide
  return if (← emit shown) && isWhole then 0 else 1

end Intercept.Shell.Tool
