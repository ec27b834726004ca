import Intercept.Shell.Names

/-!
# Columns

Names are put into columns that are as many as fit on a line. The gap to the next column is filled
with tabs as far as possible.
-/

namespace Intercept.Shell.Tool

/-- The number of places on a line. -/
def lineWidth : Nat := 80

/-- The number of places from one tab stop to the next. -/
def tabWidth : Nat := 8

/-- The number of places between a name and the next column. -/
def columnGap : Nat := 2

/-- The least number of places that a column takes. -/
def leastColumn : Nat := 3

/-- How many names stand below one another if there are so many columns. -/
def rowsFor (count columns : Nat) : Nat := (count + columns - 1) / columns

/-- The column in which a name stands, names going down the columns or along the rows. -/
def columnOf (down : Bool) (count columns index : Nat) : Nat :=
  if down then index / rowsFor count columns else index % columns

/-- The widths of so many columns. -/
def columnWidths (down : Bool) (columns : Nat) (lengths : List Nat) : List Nat :=
  lengths.zipIdx.foldl (fun widths (length, index) =>
    let column := columnOf down lengths.length columns index
    let own := if column + 1 = columns then length else length + columnGap
    widths.modify column (max own)) (List.replicate columns leastColumn)

/-- The widths of as many columns as fit on a line. -/
def fittingWidths (down : Bool) (lengths : List Nat) : List Nat :=
  let most := min lengths.length ((lineWidth + leastColumn - 1) / leastColumn)
  let candidates := (List.range most).reverse.map fun n => columnWidths down (n + 1) lengths
  (candidates.find? fun widths => widths.foldl (· + ·) 0 < lineWidth).getD
    (columnWidths down 1 lengths)

/-- Tabs and blanks from one place on a line to another. -/
def gapBetween (start stop : Nat) : Bytes :=
  if start < stop then
    if (start + 1) / tabWidth < stop / tabWidth then
      Bytes.tab :: gapBetween ((start / tabWidth + 1) * tabWidth) stop
    else Bytes.space :: gapBetween (start + 1) stop
  else []
termination_by stop - start
decreasing_by
  · simp only [tabWidth] at *
    omega
  · omega

/-- A row of names, each with the width of its column. -/
def rowText (names : List (Bytes × Nat)) : Bytes :=
  let rec go (place : Nat) : List (Bytes × Nat) → Bytes
    | [] => [Bytes.newline]
    | [(name, _)] => name ++ [Bytes.newline]
    | (name, width) :: rest =>
      name ++ gapBetween (place + name.length) (place + width) ++ go (place + width) rest
  go 0 names

/-- Names in columns. -/
def inColumns (down : Bool) (names : List Bytes) : Bytes :=
  let widths := fittingWidths down (names.map (·.length))
  let rows := if down then rowsFor names.length widths.length
    else rowsFor names.length widths.length
  let step := if down then rows else 1
  let first (row : Nat) : Nat := if down then row else row * widths.length
  (List.range rows).flatMap fun row =>
    rowText (widths.zipIdx.filterMap fun (width, column) =>
      (names[first row + column * step]?).map (·, width))

/-- Names with commas between them, on as many lines as are needed. -/
def withCommas (names : List Bytes) : Bytes :=
  let (text, _) := names.foldl (fun (text, place) name =>
    if text = [] then (name, name.length)
    else if place + name.length + 2 < lineWidth then
      (text ++ Bytes.ofString ", " ++ name, place + name.length + 2)
    else (text ++ Bytes.ofString ",\n" ++ name, name.length)) (([], 0) : Bytes × Nat)
  if names.isEmpty then [] else text ++ [Bytes.newline]

end Intercept.Shell.Tool
