import Intercept.Bytes
import Intercept.Errno

/-!
# File trees

A file tree gives a node to every place, a place being the names on the way to it from the root.
The root itself is always a directory. A node has rights, a time and a number; where several places
hold one file, they hold one number, and a change of the file is seen at all of them.
-/

namespace Intercept.Files

/-- The names on the way from the root. -/
abbrev Place := List Bytes

inductive Device where
  /-- Takes everything and gives nothing. -/
  | null
  /-- Takes everything and gives zeros without an end. -/
  | zero
  /-- Gives zeros without an end, and has no room left. -/
  | full
  /-- Cannot be opened where there is no terminal. -/
  | terminal
  deriving DecidableEq, Repr

inductive Node where
  | directory
  | file (contents : Bytes)
  | link (target : Bytes)
  | device (d : Device)
  /-- A tool of the host system, known by its name. -/
  | tool (name : String)
  /-- The stream to which a channel leads of the process that looks. -/
  | stream (channel : Nat)
  deriving DecidableEq, Repr

namespace Node

/-- Whether the node holds bytes that stay. -/
def isFile : Node → Bool
  | file _ | tool _ => true
  | _ => false

/-- The rights of a node where nothing else is said. -/
def usualMode : Node → Nat
  | directory | tool _ => 0o755
  | file _ => 0o644
  | link _ => 0o777
  | device _ | stream _ => 0o666

end Node

/-- A time in nanoseconds. -/
abbrev Moment := Int

/-- What is kept of a node beside what it is. -/
structure Attributes where
  /-- The rights, in twelve bits. -/
  mode : Nat
  /-- When it was last changed. -/
  time : Moment := 0
  number : Nat := 0
  deriving DecidableEq, Repr

structure Entry where
  place : Place
  node : Node
  attributes : Attributes
  deriving DecidableEq, Repr

structure Tree where
  entries : List Entry := []
  /-- The time at which changes are made. -/
  now : Moment := 0
  /-- How many numbers have been given to nodes. -/
  numbers : Nat := 0
  deriving Repr

namespace Tree

/-- The tree of some nodes, each with the rights that are usual. -/
def ofNodes (nodes : List (Place × Node)) : Tree :=
  { entries := nodes.zipIdx.map fun ((place, node), index) =>
      { place, node, attributes := { mode := node.usualMode, number := index + 1 } }
    numbers := nodes.length }

def entry? (tree : Tree) (place : Place) : Option Entry :=
  tree.entries.find? (·.place = place)

def get? (tree : Tree) (place : Place) : Option Node :=
  if place = [] then some .directory else (tree.entry? place).map (·.node)

/-- The attributes of what is at a place. -/
def attributes? (tree : Tree) (place : Place) : Option Attributes :=
  if place = [] then some { mode := Node.directory.usualMode }
  else (tree.entry? place).map (·.attributes)

def erase (tree : Tree) (place : Place) : Tree :=
  { tree with entries := tree.entries.filter fun entry => entry.place ≠ place }

/-- The tree with an entry in the place of the one that was there. -/
def put (tree : Tree) (entry : Entry) : Tree :=
  { tree with entries := (tree.erase entry.place).entries ++ [entry] }

/-- The tree with a new node, which has a number of its own. -/
def create (tree : Tree) (place : Place) (node : Node) (mode : Nat) : Tree :=
  let attributes := { mode, time := tree.now, number := tree.numbers + 1 : Attributes }
  { tree.put { place, node, attributes } with numbers := tree.numbers + 1 }

/-- The tree after a change of the node that has a number, at all places that hold it. -/
def changeNumbered (tree : Tree) (number : Nat) (change : Entry → Entry) : Tree :=
  { tree with entries := tree.entries.map fun entry =>
      if entry.attributes.number = number then change entry else entry }

/-- The tree after a change of what is at a place, and at all places that hold the same. -/
def changeAt (tree : Tree) (place : Place) (change : Entry → Entry) : Tree :=
  match tree.entry? place with
  | some entry => tree.changeNumbered entry.attributes.number change
  | none => tree

/-- The tree with other contents of the file at a place, which is changed now. -/
def setContents (tree : Tree) (place : Place) (contents : Bytes) : Tree :=
  tree.changeAt place fun entry =>
    { entry with
      node := .file contents
      attributes := { entry.attributes with time := tree.now } }

/-- The tree with other rights of what is at a place. -/
def setMode (tree : Tree) (place : Place) (mode : Nat) : Tree :=
  tree.changeAt place fun entry => { entry with attributes := { entry.attributes with mode } }

/-- The tree with another time of what is at a place. -/
def setTime (tree : Tree) (place : Place) (time : Moment) : Tree :=
  tree.changeAt place fun entry => { entry with attributes := { entry.attributes with time } }

/-- The entry of a number. -/
def numbered? (tree : Tree) (number : Nat) : Option Entry :=
  tree.entries.find? (·.attributes.number = number)

/-- How many places hold what is at a place. -/
def holders (tree : Tree) (place : Place) : Nat :=
  match tree.entry? place with
  | some entry => (tree.entries.filter (·.attributes.number = entry.attributes.number)).length
  | none => 0

/-- The names in a directory. -/
def namesIn (tree : Tree) (directory : Place) : List Bytes :=
  tree.entries.filterMap fun entry =>
    match entry.place.reverse with
    | name :: parents => if parents.reverse = directory then some name else none
    | [] => none

theorem get?_put (tree : Tree) (entry : Entry) (below : entry.place ≠ []) :
    (tree.put entry).get? entry.place = some entry.node := by
  have skip : ∀ entries : List Entry, (∀ other ∈ entries, other.place ≠ entry.place) →
      (entries ++ [entry]).find? (fun other => decide (other.place = entry.place)) =
        some entry := by
    intro entries others
    rw [List.find?_append, List.find?_eq_none.mpr (by simpa using others)]
    simp
  have others : ∀ other ∈ (tree.erase entry.place).entries, other.place ≠ entry.place := by
    intro other member
    simpa [erase] using (List.mem_filter.mp member).2
  simp [get?, below, entry?, put, skip _ others]

theorem get?_put_of_ne (tree : Tree) (entry : Entry) {other : Place}
    (differs : other ≠ entry.place) : (tree.put entry).get? other = tree.get? other := by
  have skip : ∀ entries : List Entry,
      (entries.filter (fun held => held.place ≠ entry.place) ++ [entry]).find?
          (fun held => decide (held.place = other)) =
        entries.find? (fun held => decide (held.place = other)) := by
    intro entries
    induction entries with
    | nil => simp [Ne.symm differs]
    | cons held rest ih =>
        by_cases same : held.place = entry.place
        · have unlike : held.place ≠ other := fun equal => differs (equal ▸ same)
          simpa [same, unlike, Ne.symm differs] using ih
        · by_cases found : held.place = other <;> simp_all
  simp only [get?, entry?, put, erase]
  split
  · rfl
  · rw [skip tree.entries]

end Tree

end Intercept.Files
