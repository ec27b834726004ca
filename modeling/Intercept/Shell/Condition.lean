import Intercept.Shell.Arithmetic

/-!
# Conditions

What `test` decides: about texts, about numbers, and about what paths lead to. The words of a
condition are read from the left; a word that could be an operator is an operand where the words
behind it say so.
-/

namespace Intercept.Shell

/-- What a word can be in a condition. -/
inductive ConditionWord where
  | ended
  | operand
  | unary (letter : Char)
  | binary (name : String)
  | not
  | both
  | either
  | opened
  | closed
  deriving DecidableEq, Repr

namespace ConditionWord

def unaryLetters : List Char := "rwxefdcbpugkstznhOGLS".toList

def binaryNames : List String :=
  ["=", "!=", "<", ">", "-eq", "-ne", "-ge", "-gt", "-le", "-lt", "-nt", "-ot", "-ef"]

/-- The operator that a word is, whatever stands around it. -/
def operator? (word : Bytes) : Option ConditionWord :=
  match binaryNames.find? fun name => Bytes.ofString name = word with
  | some name => some (binary name)
  | none =>
    match word with
    | [0x21] => some not
    | [0x28] => some opened
    | [0x29] => some closed
    | [0x2D, letter] =>
      let c := Bytes.asChar letter
      if unaryLetters.contains c then some (unary c)
      else if c = 'a' then some both
      else if c = 'o' then some either
      else none
    | _ => none

def isBinary (word : Bytes) : Bool :=
  match operator? word with
  | some (binary _) => true
  | _ => false

/-- Whether a unary operator is an operand where these words follow. -/
def isOperandBefore : List Bytes → Bool
  | [] => true
  | [_] => false
  | word :: _ => isBinary word

/-- What the first word is. -/
def ofWords : List Bytes → ConditionWord
  | [] => ended
  | word :: rest =>
    match operator? word with
    | some (unary c) => if isOperandBefore rest then operand else unary c
    | some opened => if rest.isEmpty then operand else opened
    | some other => other
    | none => operand

end ConditionWord

namespace Condition

/-- Fails because an operator lacks something. -/
def refuse {α : Type} (operator : String) (message : String) : Action α :=
  Action.fail (if operator.isEmpty then message else s!"{operator}: {message}")

/-- Fails because an operand is no number. -/
def refuseNumber {α : Type} (word : Bytes) : Action α :=
  Action.failIn (Action.of "Illegal number" word)
    (Action.about word "integer expression expected")

/-- A number given as an operand, which may have blanks around it. -/
def integer (word : Bytes) : Action Int := do
  match integer? word with
  | some n => if least ≤ n ∧ n ≤ greatest then return n else refuseNumber word
  | none => refuseNumber word

/-- Whether a condition holds of what a path leads to. -/
def holdsOf (letter : Char) (node : Files.Node) (mode : Nat) : Bool :=
  match letter with
  | 'e' | 'r' | 'w' | 'O' | 'G' => true
  | 'd' => node = .directory
  | 'f' => node.isFile
  | 'c' => match node with
    | .device _ => true
    | _ => false
  | 'p' => match node with
    | .stream _ => true
    | _ => false
  | 's' => match node with
    | .file contents => !contents.isEmpty
    | .device _ | .stream _ => false
    | _ => true
  | 'x' => node = .directory || mode &&& 0o111 ≠ 0
  | 'u' => mode &&& 0o4000 ≠ 0
  | 'g' => mode &&& 0o2000 ≠ 0
  | 'k' => mode &&& 0o1000 ≠ 0
  | _ => false

/-- A condition on what a path leads to, or on a text. -/
def single (letter : Char) (operand : Bytes) : Action Bool := do
  let p ← get
  match letter with
  | 'n' => return !operand.isEmpty
  | 'z' => return operand.isEmpty
  | 't' =>
    let _ ← integer operand
    return false
  | 'h' | 'L' =>
    return match p.tree.placeOf p.directory operand with
      | .ok place => match p.tree.get? place with
        | some (.link _) => true
        | _ => false
      | .error _ => false
  | _ =>
    return (p.tree.node? p.directory operand).any fun (place, node) =>
      holdsOf letter node (((p.tree.attributes? place).map (·.mode)).getD 0)

/-- What is kept of what a path leads to. -/
def attributesOf? (p : Process) (path : Bytes) : Option Files.Attributes :=
  (p.tree.node? p.directory path).bind fun (place, _) => p.tree.attributes? place

/-- Whether two paths lead to the same. -/
def areSame (p : Process) (a b : Bytes) : Bool :=
  match p.tree.node? p.directory a, p.tree.node? p.directory b with
  | some (place, _), some (other, _) =>
    let number (place : Files.Place) : Nat := ((p.tree.attributes? place).map (·.number)).getD 0
    place = other || (number place ≠ 0 && number place = number other)
  | _, _ => false

/-- Whether two paths lead to something, of which the first was changed later. -/
def isLater (p : Process) (a b : Bytes) : Bool :=
  match attributesOf? p a, attributesOf? p b with
  | some first, some second => second.time < first.time
  | _, _ => false

/-- A condition on two operands. -/
def pair (a : Bytes) (name : String) (b : Bytes) : Action Bool := do
  let numbers (holds : Int → Int → Bool) : Action Bool := do
    let m ← integer a
    let n ← integer b
    return holds m n
  match name with
  | "=" => return a = b
  | "!=" => return a ≠ b
  | "<" => return a < b
  | ">" => return b < a
  | "-eq" => numbers fun m n => m = n
  | "-ne" => numbers fun m n => m ≠ n
  | "-lt" => numbers fun m n => m < n
  | "-le" => numbers fun m n => m ≤ n
  | "-gt" => numbers fun m n => n < m
  | "-ge" => numbers fun m n => n ≤ m
  | "-ef" => return areSame (← get) a b
  | "-nt" => return isLater (← get) a b
  | "-ot" => return isLater (← get) b a
  | _ => return false

mutual

/-- Conditions between signs for "either", given what the first word is; with the words from the
last one of them on. -/
def readEither : Nat → ConditionWord → List Bytes → Action (Bool × List Bytes)
  | 0, _, _ => throw .exhausted
  | fuel + 1, kind, words => do
    let (a, rest) ← readBoth fuel kind words
    match ConditionWord.ofWords (rest.drop 1) with
    | .either =>
      let words := rest.drop 2
      let (b, rest) ← readEither fuel (.ofWords words) words
      return (a || b, rest)
    | _ => return (a, rest)

/-- Conditions between signs for "both". -/
def readBoth : Nat → ConditionWord → List Bytes → Action (Bool × List Bytes)
  | 0, _, _ => throw .exhausted
  | fuel + 1, kind, words => do
    let (a, rest) ← readNegated fuel kind words
    match ConditionWord.ofWords (rest.drop 1) with
    | .both =>
      let words := rest.drop 2
      let (b, rest) ← readBoth fuel (.ofWords words) words
      return (a && b, rest)
    | _ => return (a, rest)

/-- A condition, perhaps behind signs that negate it. -/
def readNegated : Nat → ConditionWord → List Bytes → Action (Bool × List Bytes)
  | 0, _, _ => throw .exhausted
  | fuel + 1, kind, words => do
    if kind ≠ .not then return ← readOne fuel kind words
    let behind := words.drop 1
    let kind := ConditionWord.ofWords behind
    let (a, rest) ← readNegated fuel kind (if kind = .ended then words else behind)
    return (!a, rest)

/-- A condition without such signs. -/
def readOne : Nat → ConditionWord → List Bytes → Action (Bool × List Bytes)
  | 0, _, _ => throw .exhausted
  | fuel + 1, kind, words => do
    match kind, words with
    | .ended, _ => return (false, words)
    | .opened, _ :: rest =>
      match ConditionWord.ofWords rest with
      | .closed => return (false, rest)
      | kind =>
        let (a, rest) ← readEither fuel kind rest
        if .ofWords (rest.drop 1) ≠ ConditionWord.closed then refuse "" "closing paren expected"
        return (a, rest.drop 1)
    | .unary letter, _ :: rest =>
      match rest with
      | [] => refuse s!"-{letter}" "argument expected"
      | operand :: _ => return (← single letter operand, rest)
    | _, a :: rest =>
      match ConditionWord.ofWords rest with
      | .binary name =>
        match rest.drop 1 with
        | [] => refuse name "argument expected"
        | b :: after => return (← pair a name b, b :: after)
      | _ => return (!a.isEmpty, a :: rest)
    | _, [] => return (false, [])

end

/-- What words decide of which the first is of the given kind. All but the last of them have to be
read. -/
def decide (kind : ConditionWord) (words : List Bytes) : Action Bool := do
  let (a, rest) ← readEither (5 * words.length + 10) kind words
  match rest with
  | word :: _ :: _ =>
    let standard := if word.isEmpty then Bytes.ofString "unexpected operator"
      else Action.about word "unexpected operator"
    Action.failIn standard (match words with
      | [first, _] => Action.about first "unary operator expected"
      | [_, second, _] => Action.about second "binary operator expected"
      | _ => Bytes.ofString "too many arguments")
  | _ => return a

/-- What words decide that are read from the left. -/
def decideFromLeft (words : List Bytes) : Action Bool := decide (.ofWords words) words

/-- The words between parentheses. -/
def parenthesized? : List Bytes → Option (List Bytes)
  | [0x28] :: rest => if rest.getLast? = some [0x29] then some rest.dropLast else none
  | _ => none

/-- What the words decide. Of three words the one in the middle is looked at first, and then the
one at the front; so it is with four words, of which the first may negate the others. -/
def holds (words : List Bytes) : Action Bool := do
  let isSign (word : Bytes) : Bool := word = [0x21]
  match words, parenthesized? words with
  | [], _ => return false
  | [a, operator, b], inner? =>
    if ConditionWord.isBinary operator then decide .operand words
    else
      match inner? with
      | some inner => decideFromLeft inner
      | none =>
        if isSign a then return !(← decideFromLeft [operator, b]) else decideFromLeft words
  | [_, _, _, _], some inner => decideFromLeft inner
  | [sign, a, operator, b], none =>
    let behind := [a, operator, b]
    if !isSign sign then decideFromLeft words
    else if ConditionWord.isBinary operator then return !(← decide .operand behind)
    else
      match parenthesized? behind with
      | some inner => return !(← decideFromLeft inner)
      | none => return !(← decideFromLeft (if isSign a then [operator, b] else behind))
  | _, _ => decideFromLeft words

end Condition

end Intercept.Shell
