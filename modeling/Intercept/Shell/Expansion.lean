import Intercept.Shell.Accounts
import Intercept.Shell.Arithmetic
import Intercept.Shell.Braces
import Intercept.Shell.Paths

/-!
# Expanding words

What a word comes to: the fields of an argument, the text of an assignment, or a pattern. The
commands in a word are carried out by a function that is given, and which yields their output.
-/

namespace Intercept.Shell

/-- Where a tilde stands for a home directory. -/
inductive TildeRule where
  | nowhere
  | atStart
  /-- At the start and behind colons. -/
  | inValue
  deriving DecidableEq, Repr

/-- How a word is expanded. -/
structure Manner where
  quoted : Bool := false
  /-- Whether the word is split into fields. -/
  fields : Bool := false
  /-- Whether bytes outside quotes can be split like those from an expansion. -/
  loose : Bool := false
  tilde : TildeRule := .atStart
  deriving DecidableEq, Repr

/-- How an argument of a command is expanded. -/
def Manner.argument : Manner := { fields := true }

/-- How the value of an assignment is expanded. -/
def Manner.value : Manner := { tilde := .inValue }

/-- How the text of a document is expanded. -/
def Manner.document : Manner := { quoted := true, tilde := .nowhere }

/-- Whether a parameter stands for all arguments. -/
def isAllArguments (name : Bytes) : Bool := name = [0x40] || name = [0x2A]

/-- The home directory that a tilde and a name stand for. -/
def Process.home? (p : Process) (user : Bytes) : Option Bytes :=
  if user = [] then p.settingOf? "HOME" else homeOf? user

/-- The atoms of bytes outside quotes in which a tilde at the front stands for a home directory,
unless they go on behind `isWhole` bytes. -/
def tildeAtoms (p : Process) (isWhole : Bool) (rest : Bytes → List Atom) (bytes : Bytes) :
    List Atom :=
  match bytes with
  | 0x7E :: behind =>
    let user := behind.takeWhile (· ≠ Bytes.slash)
    let ends := isWhole || user.length < behind.length
    match if ends then p.home? user else none with
    | some home => Atom.whole true home ++ rest (behind.drop user.length)
    | none => rest bytes
  | _ => rest bytes

/-- The atoms of bytes outside quotes, which begin a word if `first`, and end it if `last`. -/
def plainAtoms (p : Process) (manner : Manner) (first last : Bool) (bytes : Bytes) : List Atom :=
  let atoms (bytes : Bytes) : List Atom :=
    if manner.fields && manner.loose then Atom.expanded manner.quoted bytes
    else Atom.whole manner.quoted bytes
  match if manner.quoted then .nowhere else manner.tilde with
  | .nowhere => atoms bytes
  | .atStart => if first then tildeAtoms p last atoms bytes else atoms bytes
  | .inValue =>
    let segments := Bytes.splitAt 0x3A bytes
    let own := segments.zipIdx.map fun (segment, index) =>
      let begins := first || 0 < index
      let isWhole := last || index + 1 < segments.length
      if begins then tildeAtoms p isWhole atoms segment else atoms segment
    (own.intersperse (atoms [0x3A])).flatten

/-- What is written between the arguments where they are joined. -/
def joint (p : Process) : Bytes :=
  match p.settingOf? "IFS" with
  | some separators => separators.take 1
  | none => [Bytes.space]

/-- The arguments as they are seen in a manner: apart, or joined. -/
def argumentValues (p : Process) (manner : Manner) (name : Bytes) : List Bytes :=
  let isApart := manner.fields && (name = [0x40] || !manner.quoted)
  if isApart || p.arguments.isEmpty then p.arguments
  else [List.intercalate (joint p) p.arguments]

/-- The number of bytes of a parameter's value; none where it has none. -/
def valueLength? (p : Process) (manner : Manner) (name : Bytes) : Option Nat :=
  if isAllArguments name then
    let own := p.arguments.flatten.length
    let joints := if manner.fields || !(joint p).isEmpty then p.arguments.length - 1 else 0
    some (own + joints)
  else (p.parameter? name).map List.length

/-- The atoms of a parameter's value. -/
def parameterAtoms (p : Process) (manner : Manner) (name : Bytes) : List Atom :=
  if isAllArguments name then
    match argumentValues p manner name with
    | [] => []
    | values =>
      if manner.fields && (name = [0x40] || !manner.quoted) then Atom.ofValues manner.quoted values
      else Atom.expanded manner.quoted values.flatten
  else
    match p.parameter? name with
    | some value => Atom.expanded manner.quoted value
    | none => []

/-- The value of a parameter as one text. -/
def Process.valueOf (p : Process) (manner : Manner) (name : Bytes) : Bytes :=
  if isAllArguments name then Bytes.joinWith Bytes.space (argumentValues p manner name)
  else (p.parameter? name).getD []

/-- Several values without the stretch at one end that the pattern matches. At the front only the
first value is cut, unless the longest stretch is all of it; what is behind the place of a cut at
the end is lost. -/
def cutValues (pattern : Pattern) (trim : Trim) (values : List Bytes) : List Bytes :=
  match values with
  | [] => []
  | [value] => [pattern.cut trim.fromEnd trim.longest value]
  | first :: others =>
    if !trim.fromEnd then
      if trim.longest && pattern.matches first then []
      else pattern.cut false trim.longest first :: others
    else
      let cut? (value : Bytes) : Option Bytes :=
        let lengths := List.range (value.length + 1)
        ((if trim.longest then lengths else lengths.reverse).find? fun n =>
          pattern.matches (value.drop n)).map value.take
      if trim.longest then
        match cut? first with
        | some start => [start]
        | none => values
      else
        match (values.zipIdx.reverse.findSome? fun (value, index) =>
            (cut? value).map fun start => values.take index ++ [start]) with
        | some kept => kept
        | none => values

/-- Fails because a parameter has no value. In the extended language this ends the shell with a
status of its own. -/
def failValue {α : Type} (message : Bytes) : Action α := do
  Action.complain message
  Action.setStatus (if (← get).language.isExtended then 127 else 2)
  throw .failed

/-- Fails because a parameter has no value where all have to have one. -/
def failUnset {α : Type} (name : Bytes) : Action α := do
  let why := if (← get).language.isExtended then "unbound variable" else "parameter not set"
  failValue (Action.about name why)

/-- What is said where a parameter has no value and none is to be used instead. -/
def noValueText (language : Language) (orEmpty : Bool) : String :=
  match language, orEmpty with
  | _, false => "parameter not set"
  | .standard, true => "parameter not set or null"
  | .extended, true => "parameter null or not set"

/-- The bytes of a value from a number on, counted from its end where that is negative, as many as a
length says, or up to a place that is counted from the end. None if the end comes first. -/
def sliceOf (value : Bytes) (start : Int) (length : Option Int) : Option Bytes :=
  let size : Int := value.length
  let first := if start < 0 then size + start else start
  if first < 0 || size < first then some []
  else
    let rest := value.drop first.toNat
    match length with
    | none => some rest
    | some length =>
      if 0 ≤ length then some (rest.take length.toNat)
      else if size + length < first then none
      else some (rest.take (size + length - first).toNat)

/-- The longest stretch at the front of a value that a pattern matches. -/
def longestMatch? (pattern : Pattern) (value : Bytes) : Option Nat :=
  (List.range (value.length + 1)).reverse.find? fun n => pattern.matches (value.take n)

/-- The value with other bytes for the stretches that a pattern matches. -/
def replaceAll (pattern : Pattern) (text : Bytes) (onlyFirst : Bool) : Nat → Bytes → Bytes
  | 0, value => value
  | _, [] => []
  | fuel + 1, b :: value =>
    match longestMatch? pattern (b :: value) with
    | some (n + 1) =>
      let rest := (b :: value).drop (n + 1)
      text ++ if onlyFirst then rest else replaceAll pattern text onlyFirst fuel rest
    | _ => b :: replaceAll pattern text onlyFirst fuel value

/-- The value with other bytes where a rule says. -/
def replaceIn (rule : Replacing) (pattern : Pattern) (text value : Bytes) : Bytes :=
  match rule with
  | .first => replaceAll pattern text true (value.length + 1) value
  | .all => replaceAll pattern text false (value.length + 1) value
  | .atFront =>
    match longestMatch? pattern value with
    | some n => text ++ value.drop n
    | none => value
  | .atEnd =>
    match (List.range (value.length + 1)).find? fun n => pattern.matches (value.drop n) with
    | some n => value.take n ++ text
    | none => value

/-- The value with letters in the other case, where a pattern matches them. -/
def recase (capital all : Bool) (pattern : Pattern) (value : Bytes) : Bytes :=
  let isOwn (b : UInt8) : Bool := pattern.isEmpty || pattern.matches [b]
  let change (b : UInt8) : UInt8 :=
    if !isOwn b then b
    else if capital && 0x61 ≤ b && b ≤ 0x7A then b - 0x20
    else if !capital && 0x41 ≤ b && b ≤ 0x5A then b + 0x20
    else b
  if all then value.map change
  else
    match value with
    | [] => []
    | b :: rest => change b :: rest

mutual

/-- The atoms of a part, which begins a word if `first`, and ends it if `last`. -/
def expandPart (output : Command → Action Bytes) (manner : Manner) (first last : Bool) :
    Part → Action (List Atom)
  | .plain bytes => return plainAtoms (← get) manner first last bytes
  | .literal bytes => return .anchor :: Atom.whole true bytes
  | .quoted parts => do
    let inner ← expandParts output { manner with quoted := true } false parts
    let isArguments := match parts with
      | [.parameter [0x40]] => manner.fields && !manner.quoted
      | _ => false
    return if isArguments then inner else .anchor :: inner
  | .parameter name => do
    let p ← get
    if p.switches.needValues && !isAllArguments name && (p.parameter? name).isNone then
      failUnset name
    return parameterAtoms p manner name
  | .length name => do
    let p ← get
    match valueLength? p manner name with
    | some n => return Atom.expanded manner.quoted (digitsOf n)
    | none =>
      if p.switches.needValues then failUnset name
      return Atom.expanded manner.quoted (digitsOf 0)
  | .alternative name orEmpty rule word => do
    let p ← get
    let present := (valueLength? p manner name).any fun n => !(orEmpty && n = 0)
    let own : List Atom := parameterAtoms p manner name
    let tilde := if manner.tilde = .nowhere then .atStart else manner.tilde
    match rule, present with
    | .replace, true => expandParts output { manner with loose := true, tilde } true word
    | .replace, false => return []
    | _, true => return own
    | .default, false => expandParts output { manner with loose := true, tilde } true word
    | .assign, false =>
      let text := textOf (← expandParts output { quoted := manner.quoted } true word)
      setNamed name text
      return parameterAtoms (← get) manner name
    | .complain, false =>
      let text := textOf (← expandParts output { quoted := manner.quoted } true word)
      if word.isEmpty then failValue (Action.about name (noValueText p.language orEmpty))
      failValue (name ++ Bytes.ofString ": " ++ text)
  | .trimmed name trim pattern => do
    let p ← get
    if p.switches.needValues && !isAllArguments name && (p.parameter? name).isNone then
      failUnset name
    let pattern := Pattern.ofMarks (marksOf (← expandParts output {} true pattern))
    let p ← get
    if isAllArguments name then
      let values := cutValues pattern trim (argumentValues p manner name)
      return Atom.ofValues manner.quoted values
    else
      let value := (p.parameter? name).getD []
      return Atom.expanded manner.quoted (pattern.cut trim.fromEnd trim.longest value)
  | .substitution body => return Atom.expanded manner.quoted (← output body)
  | .arithmetic parts => do
    let text := textOf (← expandParts output { quoted := true } false parts)
    return Atom.expanded manner.quoted (integerText (← evaluateSum text))
  | .slice name start length => do
    let value := (← get).valueOf manner name
    let first ← evaluateSum (textOf (← expandParts output { quoted := true } false start))
    let count? ← match length with
      | none => pure none
      | some length => do
        let text := textOf (← expandParts output { quoted := true } false length)
        pure (some (← evaluateSum text))
    match sliceOf value first count? with
    | some bytes => return Atom.expanded manner.quoted bytes
    | none => Action.failAbout (integerText (count?.getD 0)) "substring expression < 0"
  | .replaced name rule pattern text => do
    let pattern := Pattern.ofMarks (marksOf (← expandParts output {} true pattern))
    let text := textOf (← expandParts output {} true text)
    let value := (← get).valueOf manner name
    return Atom.expanded manner.quoted (replaceIn rule pattern text value)
  | .recased name capital all pattern => do
    let pattern := Pattern.ofMarks (marksOf (← expandParts output {} true pattern))
    return Atom.expanded manner.quoted (recase capital all pattern ((← get).valueOf manner name))
  | .reusable name => do
    let quote (value : Bytes) : Bytes :=
      0x27 :: value.flatMap (fun b => if b = 0x27 then [0x27, 0x5C, 0x27, 0x27] else [b]) ++ [0x27]
    let p ← get
    let isHere := isAllArguments name || (p.parameter? name).isSome
    let text := if isHere then quote (p.valueOf manner name) else []
    return Atom.expanded manner.quoted text
  | .indirect name => do
    let p ← get
    return parameterAtoms p manner ((p.parameter? name).getD [])
  | .senseless text => do
    if (← get).language.isExtended then Action.failAbout text "bad substitution"
    Action.fail "Bad substitution"

/-- The atoms of a row of parts, which begins a word if `first`. -/
def expandParts (output : Command → Action Bytes) (manner : Manner) (first : Bool) :
    List Part → Action (List Atom)
  | [] => return []
  | part :: parts => do
    let atoms ← expandPart output manner first parts.isEmpty part
    return atoms ++ (← expandParts output manner false parts)

end

/-- The text of a word that is one field. -/
def expandText (output : Command → Action Bytes) (manner : Manner) (word : Word) : Action Bytes :=
  return textOf (← expandParts output manner true word)

/-- The pattern of a word. -/
def expandPattern (output : Command → Action Bytes) (word : Word) : Action Pattern :=
  return Pattern.ofMarks (marksOf (← expandParts output {} true word))

/-- The fields of a word. In the extended language it may stand for several words. -/
def expandWord (output : Command → Action Bytes) (word : Word) : Action (List Bytes) := do
  let words := if (← get).switches.isOn "braceexpand" then word.alternatives else [word]
  let fields ← words.mapM fun word => do
    let atoms ← expandParts output .argument true word
    let p ← get
    return (fieldsOf p.separators atoms).flatMap (expandPaths p)
  return fields.flatten

/-- The fields of a row of words, one word after the other. -/
def expandWords (output : Command → Action Bytes) (words : List Word) : Action (List Bytes) :=
  return (← words.mapM (expandWord output)).flatten

/-- The fields of a word that may be an assignment, in which case it is one field. -/
def expandDeclaration (output : Command → Action Bytes) (word : Word) : Action (List Bytes) := do
  match word.assignment? (← get).language with
  | some (name, value) =>
    return [name ++ Bytes.equalsSign :: (← expandText output .value value)]
  | none => expandWord output word

end Intercept.Shell
