import Intercept.Shell.Tool.Identity
import Intercept.Shell.Tool.Places

/-!
# Where paths lead

Tools that show where links and paths lead, and that make and remove single names.
-/

namespace Intercept.Shell.Tool

/-- How much of a path has to be there. -/
inductive Presence where
  | all
  | allButLast
  | nothing
  deriving DecidableEq, Repr

/-- The place that names lead to from another one, whether it is there or not. Each link that is
followed takes one from `links`, and none is followed where there are none left. -/
def placeOfNames (tree : Files.Tree) (links : Nat) (place : Files.Place) (names : List Bytes) :
    Files.Place :=
  match names with
  | [] => place
  | name :: rest =>
    if name = [] ∨ name = Files.here then placeOfNames tree links place rest
    else if name = Files.above then placeOfNames tree links place.dropLast rest
    else
      match tree.get? (place ++ [name]), links with
      | some (.link target), links + 1 =>
        let start := if target.head? = some Bytes.slash then [] else place
        placeOfNames tree links start (Bytes.splitAt Bytes.slash target ++ rest)
      | _, links => placeOfNames tree links (place ++ [name]) rest
termination_by (links, names.length)

/-- The place of a path, with as much of it there as has to be. -/
def canonicalPlace (presence : Presence) (follows : Bool) (p : Process) (path : Bytes) :
    Except Cause Files.Place := do
  let start := if path.head? = some Bytes.slash then [] else p.directory
  let names := Bytes.splitAt Bytes.slash path
  if path.isEmpty then throw (.numbered .noSuchFile)
  if !follows then return placeOfNames p.tree 0 start names
  if presence = .nothing then return placeOfNames p.tree Files.linkLimit start names
  match ← p.tree.find p.directory path with
  | .node place _ => return place
  | .free place =>
    if presence = .all then throw (.numbered .noSuchFile) else return place

/-- The target of a link. -/
def linkTarget (p : Process) (path : Bytes) : Except Cause Bytes := do
  match ← nodeAt p.tree p.directory path with
  | (_, .link target) => return target
  | _ => throw (.numbered .invalidArgument)

/-- What is said where a tool is given nothing to work on. -/
def missesOperand (use : Use) : Action Bool := do
  if use.operands.isEmpty then refuseUse (Bytes.ofString "missing operand")
  return use.operands.isEmpty

/-- Shows where links lead, or the places that paths have in the end. -/
def readlink (use : Use) : Action Nat := do
  if ← missesOperand use then return 1
  let presence? := use.options.foldl (fun (chosen : Option Presence) (letter, _) =>
    match letter with
    | 'f' => some .allButLast
    | 'e' => some .all
    | 'm' => some .nothing
    | _ => chosen) none
  let several := 1 < use.operands.length
  if use.has 'n' && several then
    remark (Bytes.ofString "ignoring --no-newline with multiple arguments")
  let ending : Bytes := if use.has 'n' && !several then [] else [use.lineEnd]
  let mut status := 0
  for path in use.operands do
    let p ← get
    let found := match presence? with
      | some presence => (canonicalPlace presence true p path).map Files.placeText
      | none => linkTarget p path
    match found with
    | .ok text => if !(← emit (text ++ ending)) then status := 1
    | .error cause =>
      if use.has 'v' then explain "" (nameText path) (reason cause)
      status := 1
  return status

def readlinkOptions : Use.Known :=
  { letters := "efmnqsvz"
    names := [("canonicalize", 'f'), ("canonicalize-existing", 'e'),
      ("canonicalize-missing", 'm'), ("no-newline", 'n'), ("quiet", 'q'), ("silent", 's'),
      ("verbose", 'v'), ("zero", 'z')] }

/-- The way from one place to another. -/
def wayBetween (start goal : Files.Place) : Bytes :=
  let common := ((start.zip goal).takeWhile fun (a, b) => a = b).length
  let up := List.replicate (start.length - common) Files.above
  let names := up ++ goal.drop common
  if names.isEmpty then Files.here else Bytes.joinWith Bytes.slash names

/-- Shows the places that paths have in the end, perhaps as seen from a directory. -/
def realpath (use : Use) : Action Nat := do
  if ← missesOperand use then return 1
  let p ← get
  let presence : Presence := use.options.foldl (fun chosen (letter, _) =>
    match letter with
    | 'e' => .all
    | 'm' => .nothing
    | _ => chosen) .allButLast
  let place (path : Bytes) : Except Cause Files.Place := do
    if use.has 'L' then
      let start := if path.head? = some Bytes.slash then [] else p.directory
      let plain := placeOfNames p.tree 0 start (Bytes.splitAt Bytes.slash path)
      if path.isEmpty then throw (.numbered .noSuchFile)
      canonicalPlace presence true p (Files.placeText plain)
    else canonicalPlace presence (!use.has 's') p path
  let directory? (letter : Char) : Except (Bytes × Cause) (Option Files.Place) :=
    match use.argument? letter with
    | none => .ok none
    | some path => ((place path).map some).mapError (path, ·)
  match directory? 'τ', directory? 'β' with
  | .error (path, cause), _ | _, .error (path, cause) =>
    explain "" (nameText path) (reason cause)
    return 1
  | .ok seen, .ok base =>
    let reference := seen.orElse fun _ => base
    let isBelow (goal : Files.Place) : Bool := base.all (·.isPrefixOf goal)
    let mut status := 0
    for path in use.operands do
      match place path with
      | .ok goal =>
        let text := match reference with
          | some start =>
            if isBelow goal && isBelow start then wayBetween start goal else Files.placeText goal
          | none => Files.placeText goal
        if !(← emit (text ++ [use.lineEnd])) then status := 1
      | .error cause =>
        if !use.has 'q' then explain "" (nameText path) (reason cause)
        status := 1
    return status

def realpathOptions : Use.Known :=
  { letters := "eLmPqszτ:β:"
    names := [("canonicalize-existing", 'e'), ("canonicalize-missing", 'm'), ("logical", 'L'),
      ("physical", 'P'), ("quiet", 'q'), ("strip", 's'), ("no-symlinks", 's'), ("zero", 'z'),
      ("relative-to", 'τ'), ("relative-base", 'β')] }

/-- Gives a file another name. -/
def link (use : Use) : Action Nat := do
  match use.operands with
  | [] =>
    let _ ← missesOperand use
    return 1
  | [path] =>
    refuseUse (Bytes.ofString "missing operand after " ++ quotedText path)
    return 1
  | path :: name :: _ =>
    if ← refusesMore use 2 then return 1
    let p ← get
    let made : Except Cause Files.Tree := do
      let (place, node) ← nodeAt p.tree p.directory path
      let target ← p.tree.placeOf p.directory name
      if (p.tree.get? target).isSome then throw (.numbered .fileExists)
      if node = .directory then throw (.numbered .notPermitted)
      match p.tree.entry? place with
      | some entry => return p.tree.put { entry with place := target }
      | none => throw (.numbered .noSuchFile)
    match made with
    | .ok tree =>
      set (p.setTree tree)
      return 0
    | .error cause =>
      remark (Bytes.ofString "cannot create link " ++ shellQuoted name ++ Bytes.ofString " to " ++
        shellQuoted path ++ Bytes.ofString s!": {reason cause}")
      return 1

/-- Removes a name. -/
def unlink (use : Use) : Action Nat := do
  match use.operands with
  | [] =>
    let _ ← missesOperand use
    return 1
  | path :: _ =>
    if ← refusesMore use 1 then return 1
    let p ← get
    match p.tree.remove p.directory path with
    | .ok tree =>
      set (p.setTree tree)
      return 0
    | .error cause =>
      explain "cannot unlink " (shellQuoted path) (reason cause)
      return 1

end Intercept.Shell.Tool
