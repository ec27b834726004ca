import Intercept.Fault
import Intercept.Files.Tree

/-!
# Paths

A path is followed name by name through a tree. Links are followed too, up to a limit, and a path
that ends in a slash asks for a directory.
-/

namespace Intercept.Files

/-- Where a path leads: to a node, or to a free name in a directory that is there. -/
inductive Found where
  | node (place : Place) (node : Node)
  | free (place : Place)
  deriving DecidableEq, Repr

/-- The longest name that a directory can hold. -/
def longestName : Nat := 255

/-- The length from which on a path is too long. -/
def pathLimit : Nat := 4096

/-- The number of links that are followed on one path. -/
def linkLimit : Nat := 40

/-- The name that stands for the directory itself. -/
def here : Bytes := [0x2E]

/-- The name that stands for the directory above. -/
def above : Bytes := [0x2E, 0x2E]

/-- The path of a place. -/
def placeText (place : Place) : Bytes :=
  if place = [] then [Bytes.slash] else place.flatMap fun name => Bytes.slash :: name

/-- Follows names from a directory. Each link that is followed takes one from `links`. Where a file
may be created, a last name with a slash behind it is refused without being looked at. -/
def Tree.follow (tree : Tree) (creates : Bool) (links : Nat) (directory : Place)
    (names : List Bytes) : Except Errno Found :=
  match names with
  | [] => .ok (.node directory .directory)
  | name :: rest =>
    if name = [] ∨ name = here then tree.follow creates links directory rest
    else if name = above then tree.follow creates links directory.dropLast rest
    else if creates ∧ rest ≠ [] ∧ rest.all (· = []) then .error .isDirectory
    else if longestName < name.length then .error .nameTooLong
    else
      let place := directory ++ [name]
      match tree.get? place, links with
      | none, _ =>
        if rest.all (· = []) ∧ (tree.get? directory).isSome then .ok (.free place)
        else .error .noSuchFile
      | some .directory, links => tree.follow creates links place rest
      | some (.link _), 0 => .error .tooManyLinks
      | some (.link target), links + 1 =>
        let start := if target.head? = some Bytes.slash then [] else directory
        tree.follow creates links start (Bytes.splitAt Bytes.slash target ++ rest)
      | some node, _ => if rest = [] then .ok (.node place node) else .error .notDirectory
termination_by (links, names.length)

/-- The directory that shows processes. Nothing can be put into it. -/
def processes : Bytes := Bytes.ofString "proc"

/-- Where a path leads that is seen from a directory. -/
def Tree.find (tree : Tree) (directory : Place) (path : Bytes) (creates : Bool := false) :
    Except Cause Found :=
  if path.contains 0 then .error .nulInPath
  else if path = [] then .error (.numbered .noSuchFile)
  else if pathLimit ≤ path.length then .error (.numbered .nameTooLong)
  else
    let start := if path.head? = some Bytes.slash then [] else directory
    match tree.follow creates linkLimit start (Bytes.splitAt Bytes.slash path) with
    | .error errno => .error (.numbered errno)
    | .ok (.free place) =>
      if place.head? = some processes then .error (.numbered .noSuchFile) else .ok (.free place)
    | .ok found => .ok found

/-- The node that a path leads to. -/
def Tree.node? (tree : Tree) (directory : Place) (path : Bytes) : Option (Place × Node) :=
  match tree.find directory path with
  | .ok (.node place node) => some (place, node)
  | _ => none

/-- Whether a path names something. -/
def Tree.names (tree : Tree) (directory : Place) (path : Bytes) : Bool :=
  (tree.node? directory path).isSome

/-- A path cut in front of its last name. -/
def cutLast (path : Bytes) : Bytes × Bytes :=
  let last := (path.reverse.takeWhile (· ≠ Bytes.slash)).reverse
  (path.take (path.length - last.length), last)

/-- How many bytes are taken at once from a device that gives bytes without an end. -/
def blockLength : Nat := 131072

/-- What can be read from a node, from an offset on. -/
def Node.contents (node : Node) (offset : Nat := 0) : Except Errno Bytes :=
  match node with
  | .directory => .error .isDirectory
  | .file bytes => .ok (bytes.drop offset)
  | .device .zero | .device .full => .ok (List.replicate blockLength 0)
  | .device .terminal => .error .noDevice
  | _ => .ok []

/-- The contents of the file that a path leads to. -/
def Tree.read (tree : Tree) (directory : Place) (path : Bytes) : Except Cause Bytes := do
  match ← tree.find directory path with
  | .free .. => .error (.numbered .noSuchFile)
  | .node _ node => node.contents.mapError .numbered

/-- The place of the file that a path leads to, for writing: there need not be one yet. -/
def Tree.findToWrite (tree : Tree) (directory : Place) (path : Bytes) : Except Cause Found := do
  match ← tree.find directory path true with
  | .node _ .directory => .error (.numbered .isDirectory)
  | .node _ (.device .terminal) => .error (.numbered .noDevice)
  | found => .ok found

/-- The tree after bytes were added at the end of what stands at a place. -/
def Tree.appendAt (tree : Tree) (place : Place) (bytes : Bytes) : Except Cause Tree :=
  match tree.get? place with
  | some (.file contents) => .ok (tree.setContents place (contents ++ bytes))
  | some (.device .full) => .error (.numbered .noSpace)
  | some _ => .ok tree
  | none => .ok (tree.create place (.file bytes) (Node.file bytes).usualMode)

/-- The tree after bytes were written into the file at a place, over what it holds from an offset
on. Zeros fill the gap behind a shorter file. Nothing is left of bytes for a file that is gone. -/
def Tree.writeAt (tree : Tree) (place : Place) (offset : Nat) (bytes : Bytes) :
    Except Cause Tree :=
  match tree.get? place with
  | some (.file contents) =>
    let gap := List.replicate (offset - contents.length) 0
    let after := contents.drop (offset + bytes.length)
    .ok (tree.setContents place (contents.take offset ++ gap ++ bytes ++ after))
  | some (.device .full) => .error (.numbered .noSpace)
  | _ => .ok tree

/-- The place that a path leads to for writing. -/
def Found.place : Found → Place
  | node place _ => place
  | free place => place

/-- The tree after bytes were added at the end of a file, which is created if it is not there. -/
def Tree.append (tree : Tree) (directory : Place) (path bytes : Bytes) : Except Cause Tree := do
  let found ← tree.findToWrite directory path
  tree.appendAt found.place bytes

/-- The tree after the contents of a file were replaced. A new file gets some rights, and one that
is there keeps its own. -/
def Tree.overwrite (tree : Tree) (directory : Place) (path contents : Bytes)
    (mode : Nat := 0o644) : Except Cause Tree := do
  match ← tree.findToWrite directory path with
  | .node place (.file _) => .ok (tree.setContents place contents)
  | .node _ (.device .full) => if contents.isEmpty then .ok tree else .error (.numbered .noSpace)
  | .node _ _ => .ok tree
  | .free place => .ok (tree.create place (.file contents) mode)

/-- The paths of the directories that a path goes through, outermost first, and the path itself:
its beginnings that end with a name. -/
def stages (path : Bytes) : List Bytes :=
  let beginnings := (List.range (path.length + 1)).map fun n => (path.take n, path.drop n)
  (beginnings.filter fun (start, rest) =>
    start.getLast?.any (· ≠ Bytes.slash) && rest.head?.all (· = Bytes.slash)).map (·.1)

/-- The tree with a directory at a path, and with those on the way to it. -/
def Tree.makeDirectories (tree : Tree) (directory : Place) (path : Bytes) : Tree :=
  (stages path).foldl (fun tree stage =>
    match tree.find directory stage with
    | .ok (.free place) => tree.create place .directory Node.directory.usualMode
    | _ => tree) tree

/-- The place of a path's last name, which is not followed if it is a link. -/
def Tree.placeOf (tree : Tree) (directory : Place) (path : Bytes) : Except Cause Place := do
  let (parent, last) := cutLast path
  if path.contains 0 then .error .nulInPath
  else if last = [] then .error (.numbered .isDirectory)
  else
    match ← tree.find directory (parent ++ here) with
    | .node place .directory =>
      if (tree.get? place).isSome then .ok (place ++ [last]) else .error (.numbered .noSuchFile)
    | _ => .error (.numbered .noSuchFile)

/-- The tree with a link at a path. -/
def Tree.makeLink (tree : Tree) (directory : Place) (path target : Bytes) : Except Cause Tree := do
  let place ← tree.placeOf directory path
  match tree.get? place with
  | some _ => .error (.numbered .fileExists)
  | none =>
    if target = [] then .error (.numbered .noSuchFile)
    else .ok (tree.create place (.link target) (Node.link target).usualMode)

/-- The tree without the file or link at a path. -/
def Tree.remove (tree : Tree) (directory : Place) (path : Bytes) : Except Cause Tree := do
  let place ← tree.placeOf directory path
  match tree.get? place with
  | none => .error (.numbered .noSuchFile)
  | some .directory => .error (.numbered .isDirectory)
  | some _ => .ok (tree.erase place)

end Intercept.Files
