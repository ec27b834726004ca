import Intercept.Shell.Regular.Basic

/-!
# Scripts of the line editor

A script is a row of commands. Each is carried out for the lines that its addresses select. A
command works on two texts: the one that is being edited, which is passed on when the script has
come to its end, and the one that is held.
-/

namespace Intercept.Shell.Editor

/-- What is looked for. -/
structure Sought where
  /-- What was looked for last, if there is none. -/
  expression : Option Regular
  ignoresCase : Bool := false
  hasLines : Bool := false
  deriving DecidableEq, Repr

/-- The lines that an address selects. -/
inductive Address where
  | line (number : Nat)
  | last
  | having (sought : Sought)
  /-- From a line on, one in so many. -/
  | every (first step : Nat)
  deriving DecidableEq, Repr

/-- Where a range of lines ends. -/
inductive RangeEnd where
  | address (a : Address)
  /-- So many lines behind the first. -/
  | after (count : Nat)
  /-- At the next line whose number is a multiple. -/
  | multiple (count : Nat)
  deriving DecidableEq, Repr

/-- The lines for which a command is carried out: all where no address is given. -/
structure Selection where
  first : Option Address := none
  last : Option RangeEnd := none
  inverted : Bool := false
  deriving DecidableEq, Repr

/-- How letters that follow are written. -/
inductive CaseChange where
  | upper
  | lower
  | upperNext
  | lowerNext
  | none
  deriving DecidableEq, Repr

/-- A part of what replaces a match. -/
inductive Replacing where
  | text (bytes : Bytes)
  | group (number : Nat)
  | change (how : CaseChange)
  deriving DecidableEq, Repr

structure Substitution where
  sought : Sought
  replacement : List Replacing
  /-- From which match on something is replaced. -/
  number : Nat := 1
  /-- Whether all matches from there on are replaced. -/
  isGlobal : Bool := false
  prints : Bool := false
  path : Option Bytes := none
  deriving DecidableEq, Repr

inductive Work where
  | nothing
  /-- The beginning of a block, with the number of the command behind it. -/
  | block (behind : Nat)
  | append (text : Bytes)
  | insert (text : Bytes)
  | change (text : Bytes)
  | delete
  | deleteLine
  | print
  | printLine
  | next
  | appendNext
  | fetch
  | appendHeld
  | hold
  | appendToHeld
  | exchange
  | substitute (s : Substitution)
  | replaceEach (pairs : List (UInt8 × UInt8))
  /-- On with the command of a number. -/
  | jump (target : Nat)
  | jumpIfReplaced (target : Nat)
  | jumpUnlessReplaced (target : Nat)
  | lineNumber
  | fileName
  | list (width : Option Nat)
  | quit (code : Nat)
  | quitSilently (code : Nat)
  | read (path : Bytes)
  | readLine (path : Bytes)
  | write (path : Bytes)
  | writeLine (path : Bytes)
  | clear
  deriving DecidableEq, Repr

structure Instruction where
  selection : Selection
  work : Work
  deriving DecidableEq, Repr

/-- A script, and whether lines are passed on only where it says so. -/
structure Script where
  instructions : Array Instruction
  isQuiet : Bool := false
  deriving Repr

end Intercept.Shell.Editor
