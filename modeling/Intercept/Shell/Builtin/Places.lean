import Intercept.Shell.Builtin.Options
import Intercept.Shell.Variables

/-!
# Commands about the place of work

The directory in which the shell works, and the rights that new files do not get.
-/

namespace Intercept.Shell

/-- The path that a path leads to from another by its names alone, without following links. Two
slashes at the front are kept. -/
def joinedPath (start path : Bytes) : Bytes :=
  let isWhole := path.head? = some Bytes.slash
  let names := Bytes.splitAt Bytes.slash (if isWhole then path else start ++ Bytes.slash :: path)
  let isDoubled : Bool := match if isWhole then path else start with
    | 0x2F :: 0x2F :: rest => rest.head? ≠ some Bytes.slash
    | _ => false
  let joined := Files.placeText (names.foldl (fun place name =>
    if name = [] ∨ name = Files.here then place
    else if name = Files.above then place.dropLast
    else place ++ [name]) [])
  if isDoubled then Bytes.slash :: joined else joined

namespace Builtin

/-- Whether the last of the letters asks for paths without links. -/
def asksForPlace (read : OptionWords) : Bool := read.options.getLast?.any (·.1 = 'P')

/-- The path of the directory. -/
def pwd (words : List Bytes) : Action Answer := do
  let read ← readOptions "LP" words
  let p ← get
  let path := if asksForPlace read then Files.placeText p.directory else p.directoryPath
  return { output := path ++ [Bytes.newline] }

/-- Whether a path is not looked for in other directories: it begins with a slash, or goes on from
this directory or the one above. -/
def isOwnPath (path : Bytes) : Bool :=
  path.head? = some Bytes.slash ||
    [Files.here, Files.above].contains (path.takeWhile (· ≠ Bytes.slash))

/-- Fails where what `cd` is asked for does not say where to go. -/
def checkPlace (p : Process) (operands : List Bytes) : Action Unit := do
  match operands with
  | [] => if (p.settingOf? "HOME").isNone then Action.fail "HOME not set"
  | [[0x2D]] => if (p.settingOf? "OLDPWD").isNone then Action.fail "OLDPWD not set"
  | [_] => return ()
  | _ => Action.fail "too many arguments"

/-- Goes to another directory, and shows its path where it is not the one that was asked for. -/
def cd (words : List Bytes) : Action Answer := do
  let read ← readOptions "LP" words
  let p ← get
  let asked := read.operands.head?
  if p.language.isExtended then checkPlace p read.operands
  let isReturn := asked = some [0x2D]
  let target := match asked with
    | none => (p.settingOf? "HOME").getD []
    | some word => if isReturn then (p.settingOf? "OLDPWD").getD [] else word
  let path := if target = [] then Files.here else target
  let searched := if isOwnPath target then [] else (p.settingOf? "CDPATH").getD []
  let directoryAt? (path : Bytes) : Option (Bytes × Files.Place) :=
    let whole := if asksForPlace read then path else joinedPath p.directoryPath path
    match p.tree.node? p.directory whole with
    | some (place, .directory) =>
      some (if asksForPlace read then Files.placeText place else whole, place)
    | _ => none
  let candidates := (Bytes.splitAt 0x3A searched).map fun start =>
    if start = [] then (path, false) else (start ++ Bytes.slash :: path, true)
  let found := candidates.findSome? fun (path, shows) =>
    (directoryAt? path).map fun found => (found, shows)
  match found <|> (directoryAt? path).map (·, false) with
  | none =>
    let whole := if asksForPlace read then path else joinedPath p.directoryPath path
    let why := match p.tree.find p.directory whole with
      | .error (.numbered errno) => errno
      | .ok (.node ..) => Errno.notDirectory
      | _ => Errno.noSuchFile
    Action.failIn (Bytes.ofString "can't cd to " ++ target) (Action.about target why.description)
  | some ((whole, place), shows) =>
    bind { exported := true } (Bytes.ofString "OLDPWD") (some p.directoryPath)
    bind { exported := true } (Bytes.ofString "PWD") (some whole)
    modify fun p =>
      { p with
        directory := place, directoryPath := whole
        known := p.known.map fun (name, path, _) => (name, path, true) }
    return { output := if shows || isReturn then whole ++ [Bytes.newline] else [] }

/-- The rights that a mask leaves, for the user, the group and others. -/
def rightsText (mask : Nat) : String :=
  let rights (shift : Nat) : String :=
    String.join ([("r", 4), ("w", 2), ("x", 1)].map fun (letter, bit) =>
      if (mask >>> shift) / bit % 2 = 0 then letter else "")
  s!"u={rights 6},g={rights 3},o={rights 0}\n"

/-- A mask in octal digits. -/
def maskText (mask : Nat) : String :=
  let digits := Nat.toDigits 8 mask
  String.ofList (List.replicate (4 - digits.length) '0' ++ digits) ++ "\n"

/-- The bits of the users that letters name; all of them where none is named. -/
def usersMask (letters : Bytes) : Nat :=
  let bits (letter : UInt8) : Nat :=
    match Bytes.asChar letter with
    | 'u' => 0o700
    | 'g' => 0o070
    | 'o' => 0o007
    | _ => 0o777
  if letters.isEmpty then 0o777 else (letters.map bits).foldl (· ||| ·) 0

/-- The rights that letters name, those of a user being copied from the rights that are given. -/
def rightsMask (rights : Nat) (letters : Bytes) : Nat :=
  let repeated (bits : Nat) : Nat := bits * 0o111
  let bits (letter : UInt8) : Nat :=
    match Bytes.asChar letter with
    | 'r' => 0o444
    | 'w' => 0o222
    | 'x' => 0o111
    | 'X' => if rights &&& 0o111 = 0 then 0 else 0o111
    | 'u' => repeated (rights / 0o100 % 8)
    | 'g' => repeated (rights / 0o010 % 8)
    | 'o' => repeated (rights % 8)
    | _ => 0
  (letters.map bits).foldl (· ||| ·) 0

/-- The rights after changes for some users, each of which begins with its sign. Copies are made
from the rights that there were at first. -/
def changeRights (first users : Nat) : Nat → Nat → Bytes → Option Nat
  | 0, rights, _ => some rights
  | _, rights, [] => some rights
  | fuel + 1, rights, sign :: rest =>
    let letters := rest.takeWhile (Bytes.ofString "rwxXsugo").contains
    let bits := rightsMask first letters &&& users
    let others := rest.drop letters.length
    match Bytes.asChar sign with
    | '+' => changeRights first users fuel (rights ||| bits) others
    | '-' => changeRights first users fuel (rights &&& (0o777 ^^^ bits)) others
    | '=' => changeRights first users fuel ((rights &&& (0o777 ^^^ users)) ||| bits) others
    | _ => none

/-- The rights after all clauses of a text, of which only the last may change nothing. -/
def rightsAfter? (rights : Nat) (text : Bytes) : Option Nat :=
  let clauses := Bytes.splitAt 0x2C text
  clauses.zipIdx.foldlM (fun changed (clause, index) =>
    let users := clause.takeWhile (Bytes.ofString "ugoa").contains
    let changes := clause.drop users.length
    if changes.isEmpty && index + 1 < clauses.length then none
    else changeRights rights (usersMask users) (clause.length + 1) changed changes) rights

/-- Shows or sets the rights that new files do not get. -/
def umask (words : List Bytes) : Action Answer := do
  let read ← readOptions "S" words
  let p ← get
  match read.operands with
  | [] =>
    let text := if read.has 'S' then rightsText p.mask else maskText p.mask
    return { output := Bytes.ofString text }
  | word :: _ =>
    if word.head?.any isDigit then
      if word.any (8 ≤ digitValue ·) then Action.failNumber word
      set { p with mask := digitsValue 8 word % 512 }
    else
      match rightsAfter? (511 - p.mask) word with
      | some rights => set { p with mask := 511 - rights }
      | none => Action.failWith (Action.of "Illegal mode" word)
    return {}
where
  digitValue (b : UInt8) : Nat := if isDigit b then b.toNat - 48 else 99
  digitsValue (base : Nat) (digits : Bytes) : Nat :=
    digits.foldl (fun n b => base * n + digitValue b) 0

end Builtin

end Intercept.Shell
