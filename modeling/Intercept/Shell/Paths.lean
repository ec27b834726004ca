import Intercept.Shell.Process

/-!
# The paths that a pattern matches

A field with a pattern in it stands for the paths that are there and match it. Names are matched one
by one between slashes; a name without a pattern only has to be there at the end.
-/

namespace Intercept.Shell

/-- The marks between slashes. -/
def splitMarks : List Mark → List (List Mark)
  | [] => [[]]
  | m :: rest =>
    if m.byte = Bytes.slash then [] :: splitMarks rest
    else
      match splitMarks rest with
      | [] => [[m]]
      | part :: parts => (m :: part) :: parts

/-- Whether something is at a path; a link at its end is not followed. -/
def isThere (tree : Files.Tree) (directory : Files.Place) (path : Bytes) : Bool :=
  let (_, last) := Files.cutLast path
  if last = [] ∨ last = Files.here ∨ last = Files.above then
    match tree.node? directory path with
    | some (_, .directory) => true
    | _ => false
  else
    match tree.placeOf directory path with
    | .ok place => (tree.get? place).isSome
    | .error _ => false

/-- The names in a directory that a pattern matches. A dot at the front has to be written. -/
def matchNames (tree : Files.Tree) (place : Files.Place) (pattern : Pattern) : List Bytes :=
  let dotted := pattern.head? = some (.exactly 0x2E)
  let names := tree.namesIn place ++ [Files.here, Files.above]
  names.filter fun name => (dotted || name.head? ≠ some 0x2E) && pattern.matches name

/-- The paths behind `start` that patterns for the names match, as far as they are there. -/
def matchSegments (tree : Files.Tree) (directory : Files.Place) (start : Bytes) :
    List Pattern → List Bytes
  | [] => []
  | pattern :: rest =>
    let names :=
      match pattern.bytes? with
      | some name => [name]
      | none =>
        match tree.node? directory (if start = [] then Files.here else start) with
        | some (place, .directory) => matchNames tree place pattern
        | _ => []
    let isLast := rest.isEmpty
    names.flatMap fun name =>
      let path := start ++ name
      if isLast then (if isThere tree directory path then [path] else [])
      else matchSegments tree directory (path ++ [Bytes.slash]) rest

/-- The paths that a field stands for: those it matches, in order, or else the field itself. -/
def expandPaths (p : Process) (marks : List Mark) : List Bytes :=
  let own := Mark.bytes marks
  let segments : List Pattern := (splitMarks (resolveBackslashes marks)).map fun segment =>
    compile segment.length segment
  if p.switches.plainPaths || segments.all (·.bytes?.isSome) then [own]
  else
    match matchSegments p.tree p.directory [] segments with
    | [] => [own]
    | paths => paths.mergeSort bytesLe

end Intercept.Shell
