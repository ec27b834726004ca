import Intercept.Shell.Action

/-!
# Variables and parameters

What `$` and a name stand for, and how variables are set, passed on to other programs, protected,
made local and listed.
-/

namespace Intercept.Shell

/-- The row of a table in which a name is kept. -/
def bucket (size : Nat) (name : Bytes) : Nat :=
  name.foldl (fun n b => n + b.toNat) (16 * (name.headD 0).toNat) % size

/-- The entries in the order of the rows of a table. -/
def inBuckets {α : Type} (size : Nat) (name : α → Bytes) (entries : List α) : List α :=
  entries.mergeSort fun a b => bucket size (name a) ≤ bucket size (name b)

/-- A row of single quotes in double quotes; nothing where there are none. -/
def quotedQuotes (count : Nat) : Bytes :=
  if count = 0 then [] else Bytes.quote :: List.replicate count 0x27 ++ [Bytes.quote]

/-- The bytes behind an opening single quote, as they are written for the shell to read them.
`count` single quotes are still to be written. -/
def singleQuotedFrom (count : Nat) : Bytes → Bytes
  | [] => if count = 0 then [0x27] else 0x27 :: quotedQuotes count
  | b :: rest =>
    if b = 0x27 then singleQuotedFrom (count + 1) rest
    else if count = 0 then b :: singleQuotedFrom 0 rest
    else 0x27 :: quotedQuotes count ++ 0x27 :: b :: singleQuotedFrom 0 rest

/-- The bytes as the shell writes them for itself: between single quotes, and single quotes between
double ones. -/
def singleQuoted (bytes : Bytes) : Bytes := 0x27 :: singleQuotedFrom 0 bytes

/-- Variables that the shell uses itself and never forgets. -/
def fixedNames : List Bytes :=
  ["IFS", "PATH", "PS1", "PS2", "PS4", "OPTIND"].map Bytes.ofString

def pathName : Bytes := Bytes.ofString "PATH"
def optionName : Bytes := Bytes.ofString "OPTIND"

namespace Process

/-- The value of a parameter that is named by a sign. -/
def special? (p : Process) (sign : UInt8) : Option Bytes :=
  match Bytes.asChar sign with
  | '?' => some (digitsOf p.status)
  | '#' => some (digitsOf p.arguments.length)
  | '$' => some (digitsOf p.shellNumber)
  | '!' => p.latestJob.map digitsOf
  | '-' => some (p.switches.letters p.language)
  | _ => none

/-- The value of a parameter that does not stand for all arguments. -/
def parameter? (p : Process) (name : Bytes) : Option Bytes :=
  match number? name with
  | some 0 => some p.name
  | some (n + 1) => p.arguments[n]?
  | none =>
    if isName name then p.setting? name else name.head?.bind p.special?

/-- The row of a table of the extended language in which a name is kept. -/
def extendedBucket (name : Bytes) : Nat :=
  let hash := name.foldl (fun (n : UInt32) b => n * 16777619 ^^^ b.toUInt32) 2166136261
  hash.toNat % 1024

/-- The variables that other programs are given. -/
def environment (p : Process) : List (Bytes × Bytes) :=
  let ordered : List (Bytes × Variable) := match p.language with
    | .standard => inBuckets 39 (·.1) p.bindings
    | .extended => p.bindings.mergeSort fun a b => extendedBucket a.1 ≤ extendedBucket b.1
  ordered.filterMap fun (name, v) =>
    if v.exported then v.value.map fun value => (name, value) else none

/-- Where commands are looked for. -/
def searchedPath (p : Process) : Bytes := (p.setting? pathName).getD []

/-- What follows from a change of a variable. -/
def variableChanged (p : Process) (name : Bytes) : Process :=
  if name = pathName then { p with known := [] } else p

/-- The process with a scope less; what was local in it is as it was before. -/
def leaveScope (p : Process) : Process :=
  match p.scopes with
  | [] => p
  | scope :: scopes =>
    scope.foldl (fun p saved =>
      match saved with
      | .binding name none => (p.dropVariable name).variableChanged name
      | .binding name (some was) => (p.putVariable name was).variableChanged name
      | .switches were => { p with switches := were }) { p with scopes }

end Process

/-- What is to be true of a variable from now on. -/
structure Declaration where
  exported : Bool := false
  readOnly : Bool := false

/-- Sets a variable, or takes its value away. -/
def bind (declaration : Declaration) (name : Bytes) (value : Option Bytes) : Action Unit := do
  let p ← get
  let was := p.binding? name
  if was.any (·.readOnly) then
    Action.failIn (Action.about name "is read only") (Action.about name "readonly variable")
  if name = optionName then
    let n ← Action.count (value.getD [])
    modify fun p => { p with options := { word := max n 1 } }
  let v : Variable :=
    { value
      exported := declaration.exported || p.switches.exportsAll || was.any (·.exported)
      readOnly := declaration.readOnly }
  let plain := !declaration.exported && !declaration.readOnly && !fixedNames.contains name
  modify fun p =>
    (if value.isNone && plain then p.dropVariable name else p.putVariable name v).variableChanged
      name

/-- Sets a variable. -/
def setVariable (name value : Bytes) : Action Unit := bind {} name (some value)

/-- The name at the front of an argument, up to an equals sign. -/
def checkedName (word : Bytes) : Action Bytes := do
  let (name, rest) := nameAtFront word
  match name, rest with
  | _ :: _, [] => return name
  | _ :: _, 0x3D :: _ => return name
  | _, _ => Action.failName (name ++ rest.takeWhile (· ≠ Bytes.equalsSign)) word

/-- Sets the variable that is named by an argument. -/
def setNamed (word value : Bytes) : Action Unit := do setVariable (← checkedName word) value

/-- Declares the variable that is named by an argument, which may also give it a value. -/
def declare (declaration : Declaration) (word : Bytes) : Action Unit := do
  match (Bytes.breakAt Bytes.equalsSign word).2, (← get).binding? word with
  | some value, _ => bind declaration (← checkedName word) (some value)
  | none, some v =>
    modify (·.putVariable word
      { v with
        exported := v.exported || declaration.exported
        readOnly := v.readOnly || declaration.readOnly })
  | none, none => bind declaration (← checkedName word) none

/-- Takes the value of a variable away. -/
def unsetNamed (word : Bytes) : Action Unit := do bind {} (← checkedName word) none

/-- Keeps what is there for the end of the innermost scope. -/
def save (saved : Saved) : Action Unit :=
  modify fun p =>
    match p.scopes with
    | [] => p
    | scope :: scopes => { p with scopes := (saved :: scope) :: scopes }

/-- Makes a variable local, which may also be given a value. -/
def makeLocal (declaration : Declaration) (word : Bytes) : Action Unit := do
  let p ← get
  if word = [0x2D] then save (.switches p.switches)
  else
    let (name, value) := Bytes.breakAt Bytes.equalsSign word
    match p.binding? name, value with
    | none, none =>
      let name ← checkedName word
      save (.binding name none)
      modify (·.putVariable name { value := none })
    | was, value =>
      save (.binding name was)
      if value.isSome then bind declaration name value

/-- Carries out a computation in a scope of its own. -/
def withScope {α : Type} (action : Action α) : Action α := do
  modify fun p => { p with scopes := [] :: p.scopes }
  action.andThen Process.leaveScope

/-- The variables with a property as commands that set them, behind a word. -/
def listVariables (p : Process) (word : String) (property : Variable → Bool) : Bytes :=
  let chosen := (p.bindings.filter fun (_, v) => property v).mergeSort fun a b => bytesLe a.1 b.1
  chosen.flatMap fun (name, v) =>
    let value := v.value.elim [] fun value => Bytes.equalsSign :: singleQuoted value
    Bytes.ofString word ++ name ++ value ++ [Bytes.newline]

end Intercept.Shell
