import Intercept.Shell.Condition
import Intercept.Shell.Tool.Usage

/-!
# Conditions of the tool

The tool decides what the shell's own command decides, but reads the words in its own way: by their
number where there are up to four, and else from the left.
-/

namespace Intercept.Shell.Tool

/-- A computation that reads a condition. A failure is a message. -/
abbrev Check := ExceptT Bytes Action

namespace Check

/-- Fails with a word in quotes, and a message around it. -/
def refuse {α : Type} (before : String) (word : Bytes) (behind : String) : Check α :=
  throw (Bytes.ofString before ++ quotedText word ++ Bytes.ofString behind)

/-- Fails because words are missing behind the last one. -/
def refuseEnd {α : Type} (all : List Bytes) : Check α :=
  refuse "missing argument after " (all.getLastD []) ""

/-- A word that has to be an integer. -/
def integer (word : Bytes) : Check Int := do
  match integer? word with
  | some n => return n
  | none => refuse "invalid integer " word ""

/-- The relation between integers that an operator asks for. -/
def relation? (operator : Bytes) : Option (Int → Int → Bool) :=
  match Utf8.text operator with
  | "-eq" => some fun m n => m = n
  | "-ne" => some fun m n => m ≠ n
  | "-lt" => some fun m n => m < n
  | "-le" => some fun m n => m ≤ n
  | "-gt" => some fun m n => n < m
  | "-ge" => some fun m n => n ≤ m
  | _ => none

/-- Whether a word is an operator between two others. -/
def isBinary (word : Bytes) : Bool :=
  (relation? word).isSome ||
    ["=", "==", "!=", "-nt", "-ot", "-ef"].any fun text => Bytes.ofString text = word

/-- The length of a word as the word shows it where it is an operand. -/
def lengthOf (word : Bytes) : Int := word.length

/-- Whether a path leads to something, and another to nothing or to what was changed before. -/
def isNewer (p : Process) (a b : Bytes) : Bool :=
  match Condition.attributesOf? p a, Condition.attributesOf? p b with
  | some first, some second => second.time < first.time
  | first, _ => first.isSome

/-- A condition on two operands, each of which may be taken for its length. -/
def pair (a : Bytes) (asLength : Bool) (operator b : Bytes) : Check Bool := do
  match relation? operator with
  | some holds =>
    let m ← if asLength then pure (lengthOf a) else integer a
    return holds m (← integer b)
  | none =>
    match Utf8.text operator with
    | "==" => Condition.pair a "=" b
    | "-nt" => return isNewer (← get) a b
    | "-ot" => return isNewer (← get) b a
    | name => Condition.pair a name b

/-- A condition on one operand. -/
def single (all : List Bytes) (operator : Bytes) (rest : List Bytes) :
    Check (Bool × List Bytes) := do
  let letter := match operator with
    | [_, letter] => Bytes.asChar letter
    | _ => ' '
  if !("bcdefghkLnOprsStuwxzGN".toList.contains letter) then
    refuse "" operator ": unary operator expected"
  match rest with
  | [] => refuseEnd all
  | operand :: rest =>
    if letter = 't' then
      let _ ← integer operand
      return (false, rest)
    return (← Condition.single letter operand, rest)

/-- Whether a word is a minus sign and a letter. -/
def isUnary (word : Bytes) : Bool := word.head? = some 0x2D && word.length = 2

def isSign (word : Bytes) : Bool := word = [0x21]
def opens (word : Bytes) : Bool := word = [0x28]
def closes (word : Bytes) : Bool := word = [0x29]

mutual

/-- Conditions between signs for "either". -/
def readEither : Nat → List Bytes → List Bytes → Check (Bool × List Bytes)
  | 0, _, _ => throw []
  | fuel + 1, all, words => do
    if words.isEmpty then refuseEnd all
    let (a, rest) ← readBoth fuel all words
    match rest with
    | [0x2D, 0x6F] :: behind =>
      let (b, rest) ← readEither fuel all behind
      return (a || b, rest)
    | _ => return (a, rest)

/-- Conditions between signs for "both". -/
def readBoth : Nat → List Bytes → List Bytes → Check (Bool × List Bytes)
  | 0, _, _ => throw []
  | fuel + 1, all, words => do
    let (a, rest) ← readTerm fuel all words
    match rest with
    | [0x2D, 0x61] :: behind =>
      let (b, rest) ← readBoth fuel all behind
      return (a && b, rest)
    | _ => return (a, rest)

/-- A condition without such signs. -/
def readTerm : Nat → List Bytes → List Bytes → Check (Bool × List Bytes)
  | 0, _, _ => throw []
  | fuel + 1, all, words => do
    match words with
    | [] => refuseEnd all
    | first :: rest =>
      if isSign first then
        let (a, rest) ← readTerm fuel all rest
        return (!a, rest)
      if opens first then
        if rest.isEmpty then refuseEnd all
        let inner := (rest.drop 1).takeWhile (!closes ·)
        let count := if inner.length < 3 then inner.length + 1 else rest.length
        let (a, rest) ← readByCount fuel all count rest
        match rest with
        | [] => refuse "" [0x29] " expected"
        | word :: rest =>
          if closes word then return (a, rest)
          throw (quotedText [0x29] ++ Bytes.ofString " expected, found " ++ quotedText word)
      match words with
      | length :: a :: operator :: b :: rest =>
        if length = [0x2D, 0x6C] && isBinary operator then
          return (← pair a true operator b, rest)
      | _ => pure ()
      match rest with
      | operator :: b :: behind =>
        if isBinary operator then return (← pair first false operator b, behind)
      | _ => pure ()
      if isUnary first then return ← single all first rest
      return (!first.isEmpty, rest)

/-- A condition that takes so many words, if it can. -/
def readByCount : Nat → List Bytes → Nat → List Bytes → Check (Bool × List Bytes)
  | 0, _, _, _ => throw []
  | fuel + 1, all, count, words => do
    match count, words with
    | 1, a :: rest => return (!a.isEmpty, rest)
    | 2, a :: b :: rest =>
      if isSign a then return (b.isEmpty, rest)
      if isUnary a then return ← single all a (b :: rest)
      refuseEnd all
    | 3, a :: operator :: b :: rest =>
      if isBinary operator then return (← pair a false operator b, rest)
      if isSign a then
        let (holds, rest) ← readByCount fuel all 2 (operator :: b :: rest)
        return (!holds, rest)
      if opens a && closes b then return (!operator.isEmpty, rest)
      if operator = [0x2D, 0x61] || operator = [0x2D, 0x6F] then
        return ← readEither fuel all words
      refuse "" operator ": binary operator expected"
    | 4, a :: b :: c :: d :: rest =>
      if isSign a then
        let (holds, rest) ← readByCount fuel all 3 (b :: c :: d :: rest)
        return (!holds, rest)
      if opens a && closes d then
        let (holds, _) ← readByCount fuel all 2 [b, c]
        return (holds, rest)
      readEither fuel all words
    | _, _ => readEither fuel all words

end

/-- What all words decide. -/
def holds (words : List Bytes) : Check Bool := do
  if words.isEmpty then return false
  let (holds, rest) ← readByCount (4 * words.length + 8) words words.length words
  match rest with
  | [] => return holds
  | word :: _ => refuse "extra argument " word ""

end Check

/-- Decides a condition, and tells what is wrong with one that makes no sense. -/
def test (words : List Bytes) : Action Nat := do
  match ← (Check.holds words).run with
  | .ok holds => return if holds then 0 else 1
  | .error message =>
    remark message
    return 2

/-- The condition between brackets. -/
def bracket (words : List Bytes) : Action Nat := do
  if words.getLast? = some [0x5D] then test words.dropLast
  else
    remark (Bytes.ofString "missing ']'")
    return 2

end Intercept.Shell.Tool
