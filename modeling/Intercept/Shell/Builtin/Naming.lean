import Intercept.Shell.Builtin.Options
import Intercept.Shell.Programs

/-!
# What names of commands stand for
-/

namespace Intercept.Shell

/-- What a name stands for where a command is told of. -/
inductive NameKind where
  | keyword
  /-- An alias, with its text. -/
  | shorthand (text : Bytes)
  | function
  | special
  | builtin
  /-- A file; `known` if it was found before. -/
  | file (path : Bytes) (known : Bool)
  deriving DecidableEq, Repr

/-- The search path that is used where the set one is not to be trusted. -/
def standardPath : Bytes :=
  Bytes.ofString "/usr/local/sbin:/usr/local/bin:/usr/sbin:/usr/bin:/sbin:/bin"

namespace Process

/-- The path at which a command was found before, if it need not be looked for again. -/
def knownPath? (p : Process) (name : Bytes) : Option Bytes :=
  (p.known.lookup name).bind fun (path, isStale) => if isStale then none else some path

/-- The process that knows at which path a command was found. -/
def learn (p : Process) (name path : Bytes) : Process :=
  if p.known.any (·.1 = name) then
    { p with known := p.known.map fun (n, old) => if n = name then (n, path, false) else (n, old) }
  else { p with known := p.known ++ [(name, path, false)] }

/-- What a name stands for. `isSpecial?` tells of the commands of the shell itself. Files are looked
for in the standard places if `usesStandard`. -/
def kindOf? (p : Process) (isSpecial? : Bytes → Option Bool) (usesStandard : Bool) (name : Bytes) :
    Option NameKind :=
  let file? : Option NameKind :=
    if name.contains Bytes.slash then
      if (p.tree.node? p.directory name).isSome then some (.file name false) else none
    else
      let searched := if usesStandard then standardPath else p.searchedPath
      (p.findFile searched name).toOption.map fun path => .file path false
  if (Token.keyword? p.language name).isSome then some .keyword
  else
    match p.aliases.lookup name, p.functions.lookup name, isSpecial? name, p.known.lookup name with
    | some text, _, _, _ => some (.shorthand text)
    | none, some _, _, _ => some .function
    | none, none, some true, _ => some .special
    | none, none, some false, _ => some .builtin
    | none, none, none, some (path, _) => if usesStandard then file? else some (.file path true)
    | none, none, none, none => file?

end Process

namespace NameKind

/-- How a command is named that stands for the same. -/
def named (name : Bytes) : NameKind → Bytes
  | shorthand text => Bytes.ofString "alias " ++ name ++ Bytes.equalsSign :: singleQuoted text
  | file path _ => path
  | _ => name

/-- What is said of a name. -/
def told (language : Language) (name : Bytes) (kind : NameKind) : Bytes :=
  name ++ match kind, language with
    | keyword, _ => Bytes.ofString " is a shell keyword"
    | shorthand text, .standard => Bytes.ofString " is an alias for " ++ text
    | shorthand text, .extended => Bytes.ofString " is aliased to `" ++ text ++ [0x27]
    | function, .standard => Bytes.ofString " is a shell function"
    | function, .extended => Bytes.ofString " is a function"
    | special, .standard => Bytes.ofString " is a special shell builtin"
    | special, .extended | builtin, _ => Bytes.ofString " is a shell builtin"
    | file path true, .standard => Bytes.ofString " is a tracked alias for " ++ path
    | file path true, .extended => Bytes.ofString " is hashed (" ++ path ++ [0x29]
    | file path false, _ => Bytes.ofString " is " ++ path

/-- One word for what a name stands for. -/
def word : NameKind → String
  | keyword => "keyword"
  | shorthand _ => "alias"
  | function => "function"
  | special | builtin => "builtin"
  | file .. => "file"

/-- The path of a file. -/
def path? : NameKind → Option Bytes
  | file path _ => some path
  | _ => none

end NameKind

namespace Builtin

/-- Finds what a name stands for, and remembers where a file was found. -/
def find (isSpecial? : Bytes → Option Bool) (usesStandard : Bool) (name : Bytes) :
    Action (Option NameKind) := do
  let p ← get
  let kind? := p.kindOf? isSpecial? usesStandard name
  if let some (.file path false) := kind? then
    if !usesStandard && !name.contains Bytes.slash then set (p.learn name path)
  return kind?

/-- What names stand for, each as a line of some text. A message tells of a name that stands for
nothing if there is one for it. -/
def tellKinds (isSpecial? : Bytes → Option Bool) (usesStandard : Bool)
    (text? : Bytes → NameKind → Option Bytes) (complains : Bool) (words : List Bytes) :
    Action (List (Option Bytes)) :=
  words.mapM fun word => do
    match ← find isSpecial? usesStandard word with
    | some kind => return some (((text? word kind).map (· ++ [Bytes.newline])).getD [])
    | none =>
      if complains then Action.complain (Action.about word "not found")
      return none

/-- Tells what some names stand for, where options ask for less than a sentence. -/
def typeWithOptions (isSpecial? : Bytes → Option Bool) (words : List Bytes) : Action Answer := do
  let read ← readOptions "afptP" words
  let text? (name : Bytes) (kind : NameKind) : Option Bytes :=
    if read.has 't' then some (Bytes.ofString kind.word)
    else if read.has 'p' || read.has 'P' then kind.path?
    else some (kind.told .extended name)
  let complains := !read.has 't' && !read.has 'p' && !read.has 'P'
  let lines ← tellKinds isSpecial? false text? complains read.operands
  return {
    output := (lines.map (·.getD [])).flatten
    status := if lines.all Option.isSome then 0 else 1 }

/-- Tells what some names stand for. -/
def type (isSpecial? : Bytes → Option Bool) (words : List Bytes) : Action Answer := do
  let language := (← get).language
  if language.isExtended then return ← typeWithOptions isSpecial? words
  let told ← words.mapM fun word => do
    match ← find isSpecial? false word with
    | some kind => return (kind.told language word, 0)
    | none => return (Action.about word "not found", 127)
  return {
    output := told.flatMap fun (text, _) => text ++ [Bytes.newline]
    status := (told.map (·.2)).foldl max 0 }

/-- Tells what a name stands for, where that is what is asked of a command before others. The
extended language can be asked for several names. -/
def describe (isSpecial? : Bytes → Option Bool) (words : List Bytes) : Action Answer := do
  let read ← readOptions "pvV" words
  let language := (← get).language
  let text (name : Bytes) (kind : NameKind) : Bytes :=
    if read.has 'V' then kind.told language name else kind.named name
  match read.operands, read.has 'v' || read.has 'V', language with
  | word :: _, true, .standard =>
    match ← find isSpecial? (read.has 'p') word with
    | some kind => return { output := text word kind ++ [Bytes.newline] }
    | none =>
      if read.has 'V' then
        return { output := Action.about word "not found" ++ [Bytes.newline], status := 127 }
      return { status := 127 }
  | words, true, .extended =>
    let lines ← tellKinds isSpecial? (read.has 'p') (some <| text · ·) (read.has 'V') words
    return {
      output := (lines.map (·.getD [])).flatten
      status := if lines.any Option.isSome then 0 else 1 }
  | _, _, _ => return {}

/-- Looks for commands and remembers where they are, or lists what is remembered. -/
def hash (isSpecial? : Bytes → Option Bool) (words : List Bytes) : Action Answer := do
  let read ← readOptions "r" words
  if read.has 'r' then
    modify fun p => { p with known := [] }
    return {}
  let p ← get
  if read.operands.isEmpty then
    let line : Bytes × Bytes × Bool → Bytes
      | (_, path, isStale) => path ++ (if isStale then [0x2A] else []) ++ [Bytes.newline]
    return { output := (inBuckets 31 (·.1) p.known).flatMap line }
  let mut status := 0
  for word in read.operands do
    let p ← get
    if word.contains Bytes.slash then continue
    if (p.functions.lookup word).isSome || (isSpecial? word).isSome then continue
    match p.findFile p.searchedPath word with
    | .ok path => set (p.learn word path)
    | .error errno =>
      Action.complain (Action.about word (whyNotFound .standard errno))
      status := 1
  return { status }

end Builtin

end Intercept.Shell
