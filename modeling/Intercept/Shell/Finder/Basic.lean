import Intercept.Shell.Regular.Match
import Intercept.Shell.Signal
import Intercept.Shell.Tool.Facts
import Intercept.Shell.Tool.Search

/-!
# What is looked for in a file tree

A query is put to each node: it holds or it does not, and it may ask for something to be done on the
way. Of two queries that both have to hold, the second is put only where the first one holds.
-/

namespace Intercept.Shell.Finder

/-- A number, and whether another one is to be less, the same, or more. -/
structure Bound where
  relation : Ordering
  count : Nat
  deriving DecidableEq, Repr

def Bound.admits (bound : Bound) (n : Nat) : Bool :=
  match bound.relation with
  | .lt => n < bound.count
  | .eq => n = bound.count
  | .gt => bound.count < n

/-- What can be asked of a node. -/
inductive Criterion where
  /-- Whether a pattern matches its name, or its whole path. -/
  | called (pattern : Pattern) (ignoresCase ofPath : Bool)
  /-- Whether a pattern matches the path that it leads to as a link. -/
  | linked (pattern : Pattern) (ignoresCase : Bool)
  /-- Whether an expression matches its whole path. -/
  | spelled (expression : Regular) (ignoresCase : Bool)
  /-- Whether it is of a kind; that of what a link leads to where it `follows`. -/
  | kind (letters : Bytes) (follows : Bool)
  | empty
  /-- How many units of so many bytes it takes. -/
  | size (bound : Bound) (unit : Nat)
  /-- How many units of so many seconds have passed since it was changed; a unit that has begun
  counts where it `rounds` up. -/
  | age (bound : Bound) (unit : Nat) (rounds : Bool)
  | newer (moment : Files.Moment)
  /-- Whether its rights are those of a mode, hold all of them, or any of them. -/
  | rights (manner : Option UInt8) (mode : Nat)
  | holders (bound : Bound)
  | number (bound : Bound)
  /-- Whether its owner, or its group, has a number. All nodes belong to the first of each. -/
  | owner (user : Nat)
  | executable
  | fixed (value : Bool)

/-- What can be done with a node. -/
inductive Deed where
  | show (ending : UInt8)
  | format (text : Bytes)
  | list
  /-- Starts a program, with the path in the place of a pair of braces; in the directory of the node
  where it `enters`. -/
  | start (words : List Bytes) (enters asks : Bool)
  /-- Starts a program with many paths behind its words. -/
  | startAll (words : List Bytes) (enters : Bool)
  | delete
  | prune
  | quit

inductive Query where
  | criterion (criterion : Criterion)
  /-- Something that is done, perhaps with its output going to a file. -/
  | deed (deed : Deed) (file : Option Bytes)
  | negation (query : Query)
  | both (first second : Query)
  | either (first second : Query)
  /-- Only the second counts. -/
  | behind (first second : Query)

/-- Whether something is shown or done where the query is put, so that paths are not shown
besides. -/
def Query.acts : Query → Bool
  | criterion _ => false
  | deed .prune _ => false
  | deed _ _ => true
  | negation query => query.acts
  | both first second | either first second | behind first second => first.acts || second.acts

/-- How the tree is walked through. -/
structure Walk where
  deepest : Option Nat := none
  least : Nat := 0
  /-- Whether what is in a directory comes before it. -/
  insideFirst : Bool := false
  follows : Bool := false
  /-- Whether links among the operands are followed. -/
  followsOperands : Bool := false

/-- A node that is found. -/
structure Found where
  path : Bytes
  /-- The operand from which it was reached, and over how many steps. -/
  start : Bytes
  depth : Nat
  listed : Tool.Listed

namespace Found

/-- The path without slashes at its end. -/
def trimmed (found : Found) : Bytes :=
  match (found.path.reverse.dropWhile (· = Bytes.slash)).reverse with
  | [] => found.path.take 1
  | path => path

/-- The name of a node: what stands behind the last slash of its path. -/
def name (found : Found) : Bytes :=
  match (Files.cutLast found.trimmed).2 with
  | [] => found.trimmed
  | name => name

/-- The path of the directory in which the node is. -/
def parent (found : Found) : Bytes :=
  match Files.cutLast found.trimmed with
  | ([], _) => Files.here
  | (front, []) => if front = [Bytes.slash] then [] else front
  | (front, _) =>
    match (front.reverse.dropWhile (· = Bytes.slash)).reverse with
    | [] => [Bytes.slash]
    | front => front

/-- The name of a node as it stands at the end of its path, with slashes behind it. -/
def nameShown (found : Found) : Bytes :=
  if found.trimmed.length = 1 then found.name
  else found.name ++ found.path.drop found.trimmed.length

/-- The path behind the operand from which the node was reached. -/
def below (found : Found) : Bytes :=
  (found.path.drop found.start.length).dropWhile (· = Bytes.slash)

/-- The letter of the kind of a node. -/
def kindLetter (node : Files.Node) : UInt8 :=
  match Tool.Listed.kindLetter node with
  | '-' => 0x66
  | letter => letter.toUInt8

/-- The letter of the kind of what is found, behind links where that is asked for. -/
def kindIn (p : Process) (found : Found) (follows : Bool) : UInt8 :=
  match if follows then p.tree.node? p.directory found.path else none with
  | some (_, node) => kindLetter node
  | none => kindLetter found.listed.node

end Found

/-- What is found under a name in a directory. -/
def Found.inside (walk : Walk) (p : Process) (found : Found) (name : Bytes) : Found :=
  let front := if found.path.getLast? = some Bytes.slash then found.path
    else found.path ++ [Bytes.slash]
  let place := found.listed.place ++ [name]
  let own : Tool.Listed := .of p.tree name place ((p.tree.get? place).getD .directory)
  let listed := match own.node, if walk.follows then p.tree.node? place.dropLast name else none with
    | .link _, some (target, node) => .of p.tree name target node
    | _, _ => own
  { path := front ++ name, start := found.start, depth := found.depth + 1, listed }

/-- The files that a query writes to. -/
def Query.files : Query → List Bytes
  | .deed _ file => file.toList
  | .negation query => query.files
  | .both first second | .either first second | .behind first second => first.files ++ second.files
  | .criterion _ => []

/-- Whether what is asked holds of a node. -/
def Criterion.holds (p : Process) (found : Found) : Criterion → Bool
  | called pattern ignoresCase ofPath =>
    let text := if ofPath then found.path else found.name
    pattern.matches (if ignoresCase then smallLetters text else text)
  | linked pattern ignoresCase =>
    match found.listed.node with
    | .link target => pattern.matches (if ignoresCase then smallLetters target else target)
    | _ => false
  | spelled expression ignoresCase =>
    let subject := Subject.ofBytes found.path ignoresCase
    (subject.reach expression { place := 0 }).any (·.place = subject.text.size)
  | kind letters follows => letters.contains (found.kindIn p follows)
  | empty =>
    match found.listed.node with
    | .directory => (p.tree.namesIn found.listed.place).isEmpty
    | .file contents => contents.isEmpty
    | _ => false
  | size bound unit => bound.admits ((found.listed.size + unit - 1) / unit)
  | age bound unit rounds =>
    let seconds := (p.system.now - found.listed.attributes.time) / (Files.secondLength : Int)
    let passed := if rounds then (seconds + unit - 1) / unit else seconds / unit
    bound.admits passed.toNat
  | newer moment => moment < found.listed.attributes.time
  | rights manner mode =>
    let own := found.listed.attributes.mode
    match manner with
    | some 0x2D => own &&& mode = mode
    | some _ => mode = 0 || own &&& mode ≠ 0
    | none => own = mode
  | holders bound => bound.admits (found.listed.holders p.tree)
  | number bound => bound.admits found.listed.attributes.number
  | owner user => user = 0
  | executable =>
    found.listed.node = .directory || found.listed.attributes.mode &&& 0o111 ≠ 0
  | fixed value => value

end Intercept.Shell.Finder
