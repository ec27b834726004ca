import Intercept.Shell.Builtin.Options
import Intercept.Shell.Variables

/-!
# Reading a line

A line of the input is split between variables, of which the last takes what is left.
-/

namespace Intercept.Shell.Builtin

/-- A byte that was read, and whether a backslash stands before it. -/
abbrev ReadByte := UInt8 × Bool

/-- The line at the front of an input, the number of bytes it takes, and whether the byte was there
that ends it. A backslash keeps the byte behind it from separating fields, and joins lines. -/
def readMarked (ending : UInt8) : Bytes → List ReadByte × Nat × Bool
  | [] => ([], 0, false)
  | [b] =>
    if b = ending then ([], 1, true)
    else (if b = 0x5C then [] else [(b, false)], 1, false)
  | b :: c :: rest =>
    if b = ending then ([], 1, true)
    else if b = 0x5C then
      let (line, count, ended) := readMarked ending rest
      (if c = Bytes.newline then line else (c, true) :: line, count + 2, ended)
    else
      let (line, count, ended) := readMarked ending (c :: rest)
      ((b, false) :: line, count + 1, ended)

/-- The line at the front of an input in which a backslash is like any other byte. -/
def readPlain (ending : UInt8) (input : Bytes) : List ReadByte × Nat × Bool :=
  let line := input.takeWhile (· ≠ ending)
  let ended := line.length < input.length
  (line.map (·, false), if ended then line.length + 1 else line.length, ended)

/-- Splits a line between the named variables. The last one takes a field without what separates it
from nothing, or else all that is left without the blanks at the end. -/
def assignFields (separators : Separators) : List Bytes → List ReadByte → Action Unit
  | [], _ => return ()
  | name :: names, line => do
    let isIn (bytes : Bytes) (b : ReadByte) : Bool := !b.2 && bytes.contains b.1
    let line := line.dropWhile (isIn separators.blanks)
    let (field, rest) := line.span (!isIn (separators.blanks ++ separators.others) ·)
    let rest := rest.dropWhile (isIn separators.blanks)
    let others := match rest with
      | b :: after =>
        if isIn separators.others b then after.dropWhile (isIn separators.blanks) else rest
      | [] => []
    if names = [] ∧ others ≠ [] then
      let trimmed := (line.reverse.dropWhile (isIn separators.blanks)).reverse
      setNamed name (trimmed.map (·.1))
    else
      setNamed name (field.map (·.1))
      assignFields separators names others

/-- Reads a line into variables. -/
def read (words : List Bytes) : Action Answer := do
  if (← get).language.isExtended then return ← readWithOptions words
  let asked ← readOptions "p:r" words
  if asked.operands.isEmpty then Action.fail "arg count"
  let p ← get
  let readLine := if asked.has 'r' then readPlain else readMarked
  let (line, count, ended) := readLine Bytes.newline (p.input 0)
  set (p.consume 0 count)
  assignFields p.separators asked.operands (line.filter (·.1 ≠ 0))
  return { status := if ended then 0 else 1 }
where
  /-- Reads a line, or a number of bytes at most, up to a byte that can be chosen. Without a
  variable the line is kept as it is. -/
  readWithOptions (words : List Bytes) : Action Answer := do
    let asked ← readOptions "ersp:a:d:i:n:N:t:u:" words
    let argument? (letter : Char) : Option Bytes :=
      (asked.options.reverse.find? (·.1 = letter)).map (·.2)
    let ending := (argument? 'd').elim Bytes.newline fun text => text.headD 0
    let most? := (argument? 'n' <|> argument? 'N').bind number?
    let channel := ((argument? 'u').bind number?).getD 0
    let p ← get
    let input := p.input channel
    let limited := (most?.map input.take).getD input
    let (line, count, ended) := (if asked.has 'r' then readPlain else readMarked) ending limited
    set (p.consume channel count)
    let isWhole := ended || most?.any (· ≤ count)
    let kept := line.filter (·.1 ≠ 0)
    if asked.operands.isEmpty then setVariable (Bytes.ofString "REPLY") (kept.map (·.1))
    else assignFields p.separators asked.operands kept
    return { status := if isWhole then 0 else 1 }

end Intercept.Shell.Builtin
