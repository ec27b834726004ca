import Intercept.Shell.Builtin.Places
import Intercept.Shell.Tool.Usage

/-!
# Places in the file tree

Tools that show where a process is, and that remove what is at a path.
-/

namespace Intercept.Shell.Tool

/-- The path of the directory as the environment gives it, if it is whole and leads there. -/
def givenPath? (p : Process) : Option Bytes :=
  (p.settingOf? "PWD").filter fun path =>
    path.head? = some Bytes.slash &&
      (Bytes.splitAt Bytes.slash path).all (fun name => name ≠ Files.here && name ≠ Files.above) &&
      (p.tree.node? p.directory path).any fun (place, _) => place = p.directory

/-- The path of the directory, in which links are kept only where that is asked for. -/
def pwd (use : Use) : Action Nat := do
  if !use.operands.isEmpty then remark (Bytes.ofString "ignoring non-option arguments")
  let p ← get
  if (p.tree.get? p.directory).isNone then
    remark (Bytes.ofString "couldn't find directory entry in '..' with matching i-node")
    return 1
  let given := if use.options.getLast?.any (·.1 = 'L') then givenPath? p else none
  return if ← emit (given.getD (Files.placeText p.directory) ++ [Bytes.newline]) then 0 else 1

/-- The node at a path; a link at its end is not followed unless a slash is behind it. -/
def nodeAt (tree : Files.Tree) (directory : Files.Place) (path : Bytes) :
    Except Cause (Files.Place × Files.Node) := do
  let (_, last) := Files.cutLast path
  let own : Except Cause Files.Place :=
    if last = [] ∨ last = Files.here ∨ last = Files.above then .error .nulInPath
    else tree.placeOf directory path
  match own with
  | .ok place =>
    match tree.get? place with
    | some node => .ok (place, node)
    | none => .error (.numbered .noSuchFile)
  | .error _ =>
    match ← tree.find directory path with
    | .node place node => .ok (place, node)
    | .free _ => .error (.numbered .noSuchFile)

/-- What comes of an operand: the tree, what is told, and a message where something was not
possible. -/
structure Change where
  tree : Files.Tree
  told : Bytes := []
  failure : Option Bytes := none

namespace Change

/-- The change that leaves the tree as it was where it is not possible. -/
def ofExcept (tree : Files.Tree) (result : Except Bytes (Files.Tree × Bytes)) : Change :=
  match result with
  | .ok (tree, told) => { tree, told }
  | .error message => { tree, failure := some message }

/-- Another change behind this one, if that was possible. -/
def andThen (first : Change) (next : Files.Tree → Except Bytes (Files.Tree × Bytes)) : Change :=
  match first.failure with
  | some _ => first
  | none =>
    let second := ofExcept first.tree (next first.tree)
    { second with told := first.told ++ second.told }

end Change

/-- Makes a change for each of some operands. -/
def changeInTurn (operands : List Bytes) (missing : String)
    (change : Files.Tree → Files.Place → Bytes → Change) : Action Nat := do
  if operands.isEmpty then
    refuseUse (Bytes.ofString missing)
    return 1
  let mut status := 0
  for path in operands do
    let p ← get
    let { tree, told, failure } := change p.tree p.directory path
    set (p.setTree tree)
    if !(← emit told) then status := 1
    if let some message := failure then
      remark message
      status := 1
  return status

/-- Changes the tree for each of some operands. A change that is not possible is a message. -/
def changeEach (operands : List Bytes) (missing : String)
    (change : Files.Tree → Files.Place → Bytes → Except Bytes (Files.Tree × Bytes)) :
    Action Nat :=
  changeInTurn operands missing fun tree directory path =>
    .ofExcept tree (change tree directory path)

/-- A message about what cannot be done with a path. -/
def cannot (what : String) (path : Bytes) (why : String) : Bytes :=
  Bytes.ofString s!"{what} " ++ shellQuoted path ++ Bytes.ofString s!": {why}"

/-- The tree without a place and all that is below it. -/
def eraseAll (tree : Files.Tree) (place : Files.Place) : Files.Tree :=
  { tree with entries := tree.entries.filter fun entry => !place.isPrefixOf entry.place }

/-- What is said of something that has been done to a path. -/
def doneText (use : Use) (what : String) (path : Bytes) : Bytes :=
  if use.has 'v' then Bytes.ofString s!"{what} " ++ shellQuoted path ++ [Bytes.newline] else []

/-- What is told of a directory and all that is below it when it is removed, innermost first. -/
def removalText (use : Use) (tree : Files.Tree) : Nat → Bytes → Files.Place → Bytes
  | 0, path, _ => doneText use "removed directory" path
  | depth + 1, path, place =>
    let below := (tree.namesIn place).mergeSort bytesLe
    let inner := below.flatMap fun name =>
      let own := path ++ Bytes.slash :: name
      match tree.get? (place ++ [name]) with
      | some .directory => removalText use tree depth own (place ++ [name])
      | _ => doneText use "removed" own
    inner ++ doneText use "removed directory" path

/-- Removes files, and directories where that is asked for. -/
def rm (use : Use) : Action Nat := do
  if use.operands.isEmpty && use.has 'f' then return 0
  changeEach use.operands "missing operand" fun tree directory path =>
    let refusal (why : String) : Except Bytes (Files.Tree × Bytes) :=
      .error (cannot "cannot remove" path why)
    let (_, last) := Files.cutLast (path.reverse.dropWhile (· = Bytes.slash)).reverse
    match nodeAt tree directory path with
    | .error cause =>
      let isAbsent := match cause with
        | .numbered errno => errno.isAbsence
        | _ => false
      if use.has 'f' && isAbsent then .ok (tree, []) else refusal (reason cause)
    | .ok (place, .directory) =>
      if use.hasAny "rR" then
        if last = Files.here || last = Files.above then
          .error (Bytes.ofString "refusing to remove '.' or '..' directory: skipping " ++
            shellQuoted path)
        else if place = [] then
          .error (Bytes.ofString "it is dangerous to operate recursively on '/'\n" ++
            Bytes.ofString "rm: use --no-preserve-root to override this failsafe")
        else .ok (eraseAll tree place, removalText use tree 100 path place)
      else if !use.has 'd' then refusal Errno.isDirectory.description
      else if (tree.namesIn place).isEmpty then
        .ok (tree.erase place, doneText use "removed directory" path)
      else refusal Errno.notEmpty.description
    | .ok (place, _) => .ok (tree.erase place, doneText use "removed" path)

def rmOptions : Use.Known :=
  { letters := "rRfdvi"
    names := [("recursive", 'r'), ("force", 'f'), ("dir", 'd'), ("verbose", 'v')] }

end Intercept.Shell.Tool
