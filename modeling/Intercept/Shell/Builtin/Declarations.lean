import Intercept.Shell.Builtin.Options
import Intercept.Shell.Variables

/-!
# Commands that change what the shell knows

Its variables, arguments, switches and aliases.
-/

namespace Intercept.Shell.Builtin

/-- Declares variables, or lists those that have been declared so. -/
def declareAll (name : String) (declaration : Declaration) (property : Variable → Bool)
    (words : List Bytes) : Action Answer := do
  let listing : Action Answer := return { output := listVariables (← get) (name ++ " ") property }
  let declareEach (words : List Bytes) : Action Answer := do
    if words.isEmpty then return ← listing
    for word in words do declare declaration word
    return {}
  match words with
  | (0x2D :: 0x70 :: _) :: _ => listing
  | _ => declareEach (← readOptions "" words).operands

def exportVariables : List Bytes → Action Answer :=
  declareAll "export" { exported := true } (·.exported)

def protectVariables : List Bytes → Action Answer :=
  declareAll "readonly" { readOnly := true } (·.readOnly)

/-- Makes variables local to a function. -/
def declareLocal (words : List Bytes) : Action Answer := do
  if (← get).scopes.isEmpty then
    Action.failIn (Bytes.ofString "not in a function")
      (Bytes.ofString "can only be used in a function")
  for word in words do makeLocal {} word
  return {}

/-- Forgets variables, or functions. -/
def unset (words : List Bytes) : Action Answer := do
  let read ← readOptions "vf" words
  let functions := read.options.getLast?.any (·.1 = 'f')
  let mut status := 0
  for word in read.operands do
    let p ← get
    let isFixed := (p.binding? word).any (·.readOnly)
    if functions then set { p with functions := p.functions.filter (·.1 ≠ word) }
    else if p.language.isExtended && isFixed then
      Action.complain (Action.about word "cannot unset: readonly variable")
      status := 1
    else if p.language = .standard || isName word then unsetNamed word
  return { status }

/-- The words without those that turn switches, and what is to be listed. -/
def setSwitches (words : List Bytes) : Action Answer := do
  let p ← get
  if words.isEmpty then
    return { output := listVariables p "" (·.value.isSome) }
  let read := SwitchWords.read p.language false p.switches words
  set { p with switches := read.switches }
  if let some word := read.flaw then refuseSwitches read word
  settleSwitches
  if let some arguments := read.operands then
    modify fun p => { p with arguments, options := {} }
  return { output := read.listing }

/-- Drops arguments from the front. -/
def shift (words : List Bytes) : Action Answer := do
  let n ← match words with
    | [] => pure 1
    | word :: _ => Action.count word
  let p ← get
  if p.arguments.length < n then
    if p.language.isExtended then return { status := 1 }
    Action.fail "can't shift that many"
  set { p with arguments := p.arguments.drop n, options := {} }
  return {}

/-- What comes of looking for the next option in words. -/
structure FoundOption where
  /-- The letter, a question mark, or a colon. -/
  sign : UInt8
  isEnd : Bool := false
  /-- The value of the option, if there is one to be set. -/
  argument : Option Bytes := none
  message : Option Bytes := none
  place : OptionPlace

/-- The next option of some words. In a row of known letters that begins with a colon, what is wrong
is told by the sign and not by a message. -/
def nextOption (known : Bytes) (place : OptionPlace) (words : List Bytes) : FoundOption :=
  let isQuiet := known.head? = some 0x3A
  let letters := if isQuiet then known.drop 1 else known
  let wordAt (n : Nat) : Option Bytes := if n = 0 then none else words[n - 1]?
  let current : Bytes :=
    match place.letter with
    | some offset => if place.word ≤ 1 then [] else ((wordAt (place.word - 1)).getD []).drop offset
    | none => []
  let atEnd (word : Nat) : FoundOption := { sign := 0x3F, isEnd := true, place := { word } }
  -- The letters that are left of a word, and the number of the word behind it.
  let start : Except Nat (Bytes × Nat) :=
    if !current.isEmpty then .ok (current, place.word)
    else
      match wordAt place.word with
      | some [0x2D, 0x2D] => .error (place.word + 1)
      | some (0x2D :: letter :: rest) => .ok (letter :: rest, place.word + 1)
      | _ => .error place.word
  match start with
  | .error word => atEnd word
  | .ok ([], word) => atEnd word
  | .ok (c :: rest, word) =>
    let whole := (wordAt (word - 1)).getD []
    let here : OptionPlace :=
      { word, letter := some (whole.length - rest.length) }
    let flawed (sign : UInt8) (message : String) : FoundOption :=
      if isQuiet then { sign, argument := some [c], place := here }
      else
        { sign := 0x3F, message := some (Bytes.ofString message), place := here }
    match letters.dropWhile (· ≠ c) with
    | [] => flawed 0x3F s!"Illegal option -{Bytes.asChar c}"
    | _ :: 0x3A :: _ =>
      if !rest.isEmpty then { sign := c, argument := some rest, place := { word } }
      else
        match wordAt word with
        | some argument => { sign := c, argument := some argument, place := { word := word + 1 } }
        | none => flawed 0x3A s!"No arg for -{Bytes.asChar c} option"
    | _ => { sign := c, argument := some [], place := here }

/-- Reads the next option of the arguments, or of words that are given. -/
def getOption (words : List Bytes) : Action Answer := do
  match words with
  | known :: name :: own =>
    let p ← get
    let words := if own.isEmpty then p.arguments else own
    let place : OptionPlace := if words.length + 1 < p.options.word then {} else p.options
    let found := nextOption known place words
    let argumentName := Bytes.ofString "OPTARG"
    -- Where a variable cannot be set the reading begins again.
    modify fun p => { p with options := {} }
    if let some message := found.message then
      Action.tell message
      unsetNamed argumentName
    if let some argument := found.argument then setVariable argumentName argument
    setVariable optionName (digitsOf found.place.word)
    modify fun p => { p with options := {} }
    setNamed name [found.sign]
    modify fun p => { p with options := found.place }
    return { status := if found.isEnd then 1 else 0 }
  | _ =>
    if !(← get).language.isExtended then Action.fail "Usage: getopts optstring var [arg...]"
    Action.tell (Bytes.ofString "getopts: usage: getopts optstring name [arg ...]")
    return { status := 2 }

/-- An alias as a command that sets it. -/
def aliasText (language : Language) (name text : Bytes) : Bytes :=
  let front := if language.isExtended then Bytes.ofString "alias " else []
  front ++ name ++ Bytes.equalsSign :: singleQuoted text ++ [Bytes.newline]

/-- Says that there is no alias of a name. -/
def tellNoAlias (command : String) (name : Bytes) : Action Unit := do
  match (← get).language with
  | .standard => Action.tell (Action.of command (name ++ Bytes.ofString " not found"))
  | .extended => Action.complain (Action.about name "not found")

/-- Sets aliases, or shows them. -/
def setAliases (words : List Bytes) : Action Answer := do
  let p ← get
  if words.isEmpty then
    return { output := (inBuckets 39 (·.1) p.aliases).flatMap fun (name, text) =>
      aliasText p.language name text }
  let mut answer : Answer := {}
  for word in words do
    let p ← get
    match Bytes.breakAt Bytes.equalsSign (word.drop 1) with
    | (behind, some text) =>
      let name := word.take 1 ++ behind
      let isKnown := p.aliases.any (·.1 = name)
      let aliases :=
        if isKnown then p.aliases.map fun (n, old) => if n = name then (n, text) else (n, old)
        else p.aliases ++ [(name, text)]
      set { p with aliases }
    | (_, none) =>
      match p.aliases.lookup word with
      | some text =>
        answer := { answer with output := answer.output ++ aliasText p.language word text }
      | none =>
        tellNoAlias "alias" word
        answer := { answer with status := 1 }
  return answer

/-- Forgets aliases. -/
def unsetAliases (words : List Bytes) : Action Answer := do
  let read ← readOptions "a" words
  if read.has 'a' then
    modify fun p => { p with aliases := [] }
    return {}
  let mut status := 0
  for word in read.operands do
    let p ← get
    if p.aliases.any (·.1 = word) then
      set { p with aliases := p.aliases.filter (·.1 ≠ word) }
    else
      tellNoAlias "unalias" word
      status := 1
  return { status }

end Intercept.Shell.Builtin
