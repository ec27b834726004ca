import Intercept.Shell.Regular.Match
import Intercept.Shell.Regular.Reading
import Intercept.Shell.Tool.Usage

/-!
# Calculations

The tool that evaluates its arguments: a choice between values, comparisons, sums, products, and
what a regular expression matches at the beginning of a text. What is on the side of a choice that
does not count is read and not evaluated.
-/

namespace Intercept.Shell.Tool

/-- A value: a number, or a text, which may be that of a number. -/
inductive Calculated where
  | number (n : Int)
  | text (bytes : Bytes)
  deriving DecidableEq, Repr

namespace Calculated

/-- The number that the value is: digits, with a minus sign in front of them or without. -/
def number? : Calculated → Option Int
  | number n => some n
  | text bytes =>
    let (isNegative, digits) := match bytes with
      | 0x2D :: digits => (true, digits)
      | digits => (false, digits)
    if digits.isEmpty || !digits.all isDigit then none
    else some (if isNegative then -(decimal digits : Int) else decimal digits)

def bytes : Calculated → Bytes
  | number n => integerText n
  | text bytes => bytes

/-- Whether the value counts as nothing: an empty text, or one of zeros. -/
def isNothing : Calculated → Bool
  | number n => n = 0
  | text bytes =>
    let digits := if bytes.head? = some 0x2D then bytes.drop 1 else bytes
    bytes.isEmpty || (!digits.isEmpty && digits.all (· = 0x30))

end Calculated

/-- A message about arguments that are not to be evaluated. -/
abbrev Calculating := ExceptT Bytes (StateM (List Bytes × Bytes))

namespace Calculating

/-- The arguments that are left, and the one before them. -/
def arguments : Calculating (List Bytes) := return (← get).1

def fail {α : Type} (message : String) : Calculating α := throw (Bytes.ofString message)

/-- Takes the next argument if it is one of some words. -/
def word? (words : List String) : Calculating (Option String) := do
  match ← arguments with
  | next :: rest =>
    match words.find? fun word => Bytes.ofString word = next with
    | some word =>
      set (rest, next)
      return some word
    | none => return none
  | [] => return none

/-- Takes the next argument, which there must be. -/
def next : Calculating Bytes := do
  match ← get with
  | (next :: rest, _) =>
    set (rest, next)
    return next
  | ([], last) =>
    throw (Bytes.ofString "syntax error: missing argument after " ++ quotedText last)

def numberOf (value : Calculated) : Calculating Int :=
  match value.number? with
  | some n => return n
  | none => fail "non-integer argument"

/-- What an expression matches at the beginning of a text: its group, or how many bytes. -/
def matched (subject pattern : Bytes) : Calculating Calculated := do
  match Regular.read {} pattern with
  | .error flaw => fail flaw.message
  | .ok expression =>
    let s := Subject.ofBytes subject
    let hasGroup := expression.hasGroup
    match s.matchAt? expression 0, hasGroup with
    | some r, true =>
      let (start, stop) := (r.group? 1).getD (0, 0)
      return .text (s.slice start stop)
    | some r, false => return .number r.place
    | none, true => return .text []
    | none, false => return .number 0

/-- The order of two values: that of numbers if both are, else that of texts. -/
def compare (operator : String) (first second : Calculated) : Bool :=
  let (isLess, isSame) := match first.number?, second.number? with
    | some n, some m => (decide (n < m), decide (n = m))
    | _, _ =>
      (bytesLe first.bytes second.bytes && first.bytes ≠ second.bytes,
        decide (first.bytes = second.bytes))
  match operator with
  | "<" => isLess
  | "<=" => isLess || isSame
  | "=" => isSame
  | "==" => isSame
  | "!=" => !isSame
  | ">=" => !isLess
  | _ => !isLess && !isSame

/-- The result of an operator between numbers. -/
def combined (operator : String) (n m : Int) : Calculating Int :=
  match operator with
  | "+" => return n + m
  | "-" => return n - m
  | "*" => return n * m
  | _ =>
    if m = 0 then fail "division by zero"
    else return if operator = "/" then n.tdiv m else n.tmod m

/-- The position of the first byte of a text that is among others, from one on; else zero. -/
def indexOf (subject among : Bytes) : Nat :=
  (subject.findIdx? among.contains).elim 0 (· + 1)

mutual

/-- A choice: the first value unless it counts as nothing. -/
def choice : Nat → (counts : Bool) → Calculating Calculated
  | 0, _ => fail "syntax error"
  | fuel + 1, counts => do choiceFrom fuel counts (← both fuel counts)

def choiceFrom : Nat → Bool → Calculated → Calculating Calculated
  | 0, _, _ => fail "syntax error"
  | fuel + 1, counts, first => do
    match ← word? ["|"] with
    | none => return first
    | some _ =>
      let second ← both fuel (counts && first.isNothing)
      let value := if !first.isNothing then first
        else if second.isNothing then .number 0 else second
      choiceFrom fuel counts value

/-- The first of two values, if none of them counts as nothing. -/
def both : Nat → Bool → Calculating Calculated
  | 0, _ => fail "syntax error"
  | fuel + 1, counts => do bothFrom fuel counts (← comparison fuel counts)

def bothFrom : Nat → Bool → Calculated → Calculating Calculated
  | 0, _, _ => fail "syntax error"
  | fuel + 1, counts, first => do
    match ← word? ["&"] with
    | none => return first
    | some _ =>
      let second ← comparison fuel (counts && !first.isNothing)
      bothFrom fuel counts
        (if first.isNothing || second.isNothing then .number 0 else first)

def comparison : Nat → Bool → Calculating Calculated
  | 0, _ => fail "syntax error"
  | fuel + 1, counts => do comparisonFrom fuel counts (← sum fuel counts)

def comparisonFrom : Nat → Bool → Calculated → Calculating Calculated
  | 0, _, _ => fail "syntax error"
  | fuel + 1, counts, first => do
    match ← word? ["<", "<=", "=", "==", "!=", ">=", ">"] with
    | none => return first
    | some operator =>
      let second ← sum fuel counts
      comparisonFrom fuel counts (.number (if compare operator first second then 1 else 0))

def sum : Nat → Bool → Calculating Calculated
  | 0, _ => fail "syntax error"
  | fuel + 1, counts => do sumFrom fuel counts (← product fuel counts)

def sumFrom : Nat → Bool → Calculated → Calculating Calculated
  | 0, _, _ => fail "syntax error"
  | fuel + 1, counts, first => do
    match ← word? ["+", "-"] with
    | none => return first
    | some operator =>
      let second ← product fuel counts
      if !counts then sumFrom fuel counts first
      else
        let n ← numberOf first
        sumFrom fuel counts (.number (← combined operator n (← numberOf second)))

def product : Nat → Bool → Calculating Calculated
  | 0, _ => fail "syntax error"
  | fuel + 1, counts => do productFrom fuel counts (← matching fuel counts)

def productFrom : Nat → Bool → Calculated → Calculating Calculated
  | 0, _, _ => fail "syntax error"
  | fuel + 1, counts, first => do
    match ← word? ["*", "/", "%"] with
    | none => return first
    | some operator =>
      let second ← matching fuel counts
      if !counts then productFrom fuel counts first
      else
        let n ← numberOf first
        productFrom fuel counts (.number (← combined operator n (← numberOf second)))

def matching : Nat → Bool → Calculating Calculated
  | 0, _ => fail "syntax error"
  | fuel + 1, counts => do matchingFrom fuel counts (← function fuel counts)

def matchingFrom : Nat → Bool → Calculated → Calculating Calculated
  | 0, _, _ => fail "syntax error"
  | fuel + 1, counts, first => do
    match ← word? [":"] with
    | none => return first
    | some _ =>
      let second ← function fuel counts
      if counts then matchingFrom fuel counts (← matched first.bytes second.bytes)
      else matchingFrom fuel counts first

/-- A function of what follows its name. -/
def function : Nat → Bool → Calculating Calculated
  | 0, _ => fail "syntax error"
  | fuel + 1, counts => do
    match ← word? ["+", "length", "match", "index", "substr"] with
    | some "+" => return .text (← next)
    | some "length" => return .number (← function fuel counts).bytes.length
    | some "match" =>
      let subject ← function fuel counts
      let pattern ← function fuel counts
      if counts then matched subject.bytes pattern.bytes else return subject
    | some "index" =>
      let subject ← function fuel counts
      let among ← function fuel counts
      return .number (indexOf subject.bytes among.bytes)
    | some _ =>
      let subject ← function fuel counts
      let start ← function fuel counts
      let length ← function fuel counts
      match start.number?, length.number? with
      | some start, some length =>
        if start ≤ 0 || length ≤ 0 then return .text []
        else return .text ((subject.bytes.drop (start.toNat - 1)).take length.toNat)
      | _, _ => return .text []
    | none => single fuel counts

/-- An argument, or a choice in brackets. -/
def single : Nat → Bool → Calculating Calculated
  | 0, _ => fail "syntax error"
  | fuel + 1, counts => do
    match ← next with
    | [0x28] =>
      let value ← choice fuel counts
      match ← get with
      | ([0x29] :: rest, _) =>
        set (rest, [(0x29 : UInt8)])
        return value
      | ([], last) =>
        throw (Bytes.ofString "syntax error: expecting ')' after " ++ quotedText last)
      | (other :: _, _) =>
        throw (Bytes.ofString "syntax error: expecting ')' instead of " ++ quotedText other)
    | [0x29] => fail "syntax error: unexpected ')'"
    | argument => return .text argument

end

/-- The value of all arguments. -/
def whole (fuel : Nat) : Calculating Calculated := do
  let value ← choice fuel true
  match ← arguments with
  | [] => return value
  | extra :: _ =>
    throw (Bytes.ofString "syntax error: unexpected argument " ++ quotedText extra)

end Calculating

/-- Evaluates its arguments. The status tells whether the value counts as nothing. -/
def expr (words : List Bytes) : Action Nat := do
  let arguments := if words.head? = some [0x2D, 0x2D] then words.drop 1 else words
  if arguments.isEmpty then
    refuseUse (Bytes.ofString "missing operand")
    return 2
  let calculated := (ExceptT.run (Calculating.whole (12 * arguments.length + 20))).run
    (arguments, [])
  match calculated.1 with
  | .ok value =>
    if !(← emit (value.bytes ++ [Bytes.newline])) then return 3
    return if value.isNothing then 1 else 0
  | .error message =>
    remark message
    return 2

end Intercept.Shell.Tool
