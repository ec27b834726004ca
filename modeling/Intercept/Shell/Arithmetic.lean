import Intercept.Shell.Variables

/-!
# Sums

Integer expressions over words of 64 bits, with variables whose values are numbers. A text is read
into a `Sum`, which is then computed in a process: it may assign to variables. A text that is no
expression is read up to the place where that shows, and what stands before it is computed first.
-/

namespace Intercept.Shell

/-- An operation on two numbers. -/
inductive Operation where
  | multiply | divide | remainder
  | add | subtract
  | shiftLeft | shiftRight
  | less | lessOrEqual | greater | greaterOrEqual
  | equal | unequal
  | bitAnd
  | bitXor
  | bitOr
  deriving DecidableEq, Repr

namespace Operation

/-- The rank of an operation; one of a lower rank binds closer. -/
def rank : Operation → Nat
  | multiply | divide | remainder => 0
  | add | subtract => 1
  | shiftLeft | shiftRight => 2
  | less | lessOrEqual | greater | greaterOrEqual => 3
  | equal | unequal => 4
  | bitAnd => 5
  | bitXor => 6
  | bitOr => 7

end Operation

/-- A sign or an operand of an expression. -/
inductive SumToken where
  | ended
  | number (n : Int)
  | word (name : Bytes)
  | operation (op : Operation)
  /-- An assignment, perhaps of what an operation yields. -/
  | assign (op : Option Operation)
  | both
  | either
  | not
  | invert
  | opened
  | closed
  | asked
  | colon
  /-- Signs of the extended language: a step up or down, a power, and what separates expressions. -/
  | step (width : Int)
  | power
  | comma
  | stranger
  deriving DecidableEq, Repr

/-- What a text lacks to be an expression. -/
inductive SumFlaw where
  | noOperand
  | noClosing
  | noColon
  | noEnd
  | divisionByZero
  | negativeExponent
  deriving DecidableEq, Repr

def SumFlaw.message : SumFlaw → String
  | noOperand => "expecting primary"
  | noClosing => "expecting ')'"
  | noColon => "expecting ':'"
  | noEnd => "expecting EOF"
  | divisionByZero => "division by zero"
  | negativeExponent => "exponent less than 0"

/-- What a shell of the extended language says of a flaw. -/
def SumFlaw.extendedMessage : SumFlaw → String
  | noOperand => "syntax error: operand expected"
  | noClosing => "missing `)'"
  | noColon => "`:' expected for conditional expression"
  | noEnd => "syntax error in expression"
  | divisionByZero => "division by 0"
  | negativeExponent => "exponent less than 0"

/-- An expression. One in which a flaw shows is computed before the flaw is told. -/
inductive Sum where
  | flawed (flaw : SumFlaw)
  | before (sum : Sum) (flaw : SumFlaw)
  | number (n : Int)
  | named (name : Bytes)
  | negate (sum : Sum)
  | not (sum : Sum)
  | invert (sum : Sum)
  | apply (op : Operation) (a b : Sum)
  | both (a b : Sum)
  | either (a b : Sum)
  | choose (condition a b : Sum)
  | assign (name : Bytes) (op : Option Operation) (sum : Sum)
  | power (a b : Sum)
  /-- A variable that changes by a number, whose value counts before that or behind it. -/
  | step (name : Bytes) (width : Int) (isBefore : Bool)
  /-- Two expressions, of which the second counts. -/
  | pair (a b : Sum)
  deriving Repr

/-- The number in the lowest 64 bits, between -2^63 and 2^63 - 1. -/
def wrap (n : Int) : Int := (BitVec.ofInt 64 n).toInt

/-- The greatest number of 64 bits. -/
def greatest : Int := 0x7FFFFFFFFFFFFFFF

/-- The least number of 64 bits. -/
def least : Int := -0x8000000000000000

/-- A number in front of other bytes: decimal, octal behind a zero, or hexadecimal behind `0x`. -/
def readNatural (bytes : Bytes) : Option (Nat × Bytes) :=
  let behind (base : Nat) (bytes : Bytes) : Nat × Bytes :=
    let (digits, rest) := bytes.span fun b => digitValue b < base
    (digitsValue base digits, rest)
  match bytes with
  | 0x30 :: x :: b :: rest =>
    if (x = 0x78 || x = 0x58) && digitValue b < 16 then some (behind 16 (b :: rest))
    else some (behind 8 bytes)
  | 0x30 :: _ => some (behind 8 bytes)
  | b :: _ => if isDigit b then some (behind 10 bytes) else none
  | [] => none

/-- A number with blanks and a sign in front of it, and the bytes behind it; none where there is
no digit. -/
def readInteger (bytes : Bytes) : Option (Int × Bytes) :=
  match bytes.dropWhile isSpace with
  | 0x2D :: rest => (readNatural rest).map fun (n, rest) => (-(n : Int), rest)
  | 0x2B :: rest => (readNatural rest).map fun (n, rest) => ((n : Int), rest)
  | rest => (readNatural rest).map fun (n, rest) => ((n : Int), rest)

/-- The value of a variable as a number; a blank one is zero. -/
def valueNumber? (text : Bytes) : Option Int :=
  match readInteger text with
  | some (n, rest) =>
    if rest.all isSpace && least ≤ n && n ≤ greatest then some n else none
  | none => if text.all isSpace then some 0 else none

namespace SumToken

/-- A token that only the extended language knows, at the front of a text, and what is behind it. -/
def readExtended? (text : Bytes) : Option (SumToken × Bytes) :=
  match text with
  | 0x2B :: 0x2B :: rest => some (step 1, rest)
  | 0x2D :: 0x2D :: rest => some (step (-1), rest)
  | 0x2A :: 0x2A :: rest => some (power, rest)
  | 0x2C :: rest => some (comma, rest)
  | _ =>
    let (base, behind) := text.span isDigit
    match number? base, behind with
    | some base, 0x23 :: behind =>
      let (digits, rest) := behind.span fun b => digitValue b < base
      if base < 2 || 16 < base || digits.isEmpty then none
      else some (number (wrap (digitsValue base digits)), rest)
    | _, _ => none

/-- The token at the front of a text, and what is behind it. -/
def read (language : Language) (text : Bytes) : SumToken × Bytes :=
  let text := text.dropWhile fun b => isBlank b || b = Bytes.newline
  if let some found := if language.isExtended then readExtended? text else none then found else
  let perhapsAssign (op : Operation) (rest : Bytes) : SumToken × Bytes :=
    match rest with
    | 0x3D :: rest => (assign (some op), rest)
    | _ => (operation op, rest)
  match text with
  | [] => (ended, [])
  | b :: rest =>
    if isDigit b then
      match readNatural text with
      | some (n, rest) => (number (min n greatest), rest)
      | none => (stranger, text)
    else if isNameStart b then
      let (name, rest) := text.span isNameByte
      (word name, rest)
    else
      match Bytes.asChar b, rest with
      | '=', 0x3D :: rest => (operation .equal, rest)
      | '=', _ => (assign none, rest)
      | '>', 0x3D :: rest => (operation .greaterOrEqual, rest)
      | '>', 0x3E :: rest => perhapsAssign .shiftRight rest
      | '>', _ => (operation .greater, rest)
      | '<', 0x3D :: rest => (operation .lessOrEqual, rest)
      | '<', 0x3C :: rest => perhapsAssign .shiftLeft rest
      | '<', _ => (operation .less, rest)
      | '|', 0x7C :: rest => (either, rest)
      | '|', _ => perhapsAssign .bitOr rest
      | '&', 0x26 :: rest => (both, rest)
      | '&', _ => perhapsAssign .bitAnd rest
      | '!', 0x3D :: rest => (operation .unequal, rest)
      | '!', _ => (not, rest)
      | '(', _ => (opened, rest)
      | ')', _ => (closed, rest)
      | '*', _ => perhapsAssign .multiply rest
      | '/', _ => perhapsAssign .divide rest
      | '%', _ => perhapsAssign .remainder rest
      | '+', _ => perhapsAssign .add rest
      | '-', _ => perhapsAssign .subtract rest
      | '^', _ => perhapsAssign .bitXor rest
      | '~', _ => (invert, rest)
      | '?', _ => (asked, rest)
      | ':', _ => (colon, rest)
      | _, _ => (stranger, text)

/-- The tokens of a text, up to its end or to the first that is none. -/
def readAll (language : Language) : Nat → Bytes → List SumToken
  | 0, _ => []
  | fuel + 1, text =>
    match read language text with
    | (ended, _) => []
    | (stranger, _) => [stranger]
    | (token, rest) => token :: readAll language fuel rest

end SumToken

namespace Sum

/-- An expression that has been read, the tokens behind it, and whether reading goes on. -/
abbrev Read := Sum × Option (List SumToken)

mutual

/-- Expressions with commas between them. -/
def readRow : Nat → List SumToken → Read
  | 0, _ => (.flawed .noOperand, none)
  | fuel + 1, tokens =>
    match readExpression fuel tokens with
    | (a, some (.comma :: rest)) =>
      let (b, rest) := readRow fuel rest
      (.pair a b, rest)
    | read => read

/-- An assignment, or a choice. -/
def readExpression : Nat → List SumToken → Read
  | 0, _ => (.flawed .noOperand, none)
  | fuel + 1, .word name :: .assign op :: rest =>
    let (sum, rest) := readExpression fuel rest
    (.assign name op sum, rest)
  | fuel + 1, tokens => readChoice fuel tokens

/-- A choice between two expressions, or operands without one. -/
def readChoice : Nat → List SumToken → Read
  | 0, _ => (.flawed .noOperand, none)
  | fuel + 1, tokens =>
    match readEither fuel tokens with
    | (condition, some (.asked :: rest)) =>
      match readExpression fuel rest with
      | (a, some (.colon :: rest)) =>
        let (b, rest) := readChoice fuel rest
        (.choose condition a b, rest)
      | (a, some _) => (.choose condition (.before a .noColon) (.before a .noColon), none)
      | (a, none) => (.choose condition a a, none)
    | read => read

/-- Operands between signs for "either". -/
def readEither : Nat → List SumToken → Read
  | 0, _ => (.flawed .noOperand, none)
  | fuel + 1, tokens =>
    match readBoth fuel tokens with
    | (a, some (.either :: rest)) =>
      let (b, rest) := readEither fuel rest
      (.either a b, rest)
    | read => read

/-- Operands between signs for "both". -/
def readBoth : Nat → List SumToken → Read
  | 0, _ => (.flawed .noOperand, none)
  | fuel + 1, tokens =>
    match readOperations fuel 8 tokens with
    | (a, some (.both :: rest)) =>
      let (b, rest) := readBoth fuel rest
      (.both a b, rest)
    | read => read

/-- Operands between operations of lower ranks. -/
def readOperations : Nat → Nat → List SumToken → Read
  | 0, _, _ => (.flawed .noOperand, none)
  | fuel + 1, rank, tokens =>
    match readPower fuel tokens with
    | (a, some rest) => readOperationsBehind fuel rank a rest
    | read => read

/-- An operand, or powers of operands, of which the last one is computed first. -/
def readPower : Nat → List SumToken → Read
  | 0, _ => (.flawed .noOperand, none)
  | fuel + 1, tokens =>
    match readOperand fuel tokens with
    | (a, some (.power :: rest)) =>
      let (b, rest) := readPower fuel rest
      (.power a b, rest)
    | read => read

/-- What follows the first operand. -/
def readOperationsBehind : Nat → Nat → Sum → List SumToken → Read
  | 0, _, _, _ => (.flawed .noOperand, none)
  | fuel + 1, rank, a, .operation op :: rest =>
    if op.rank < rank then
      match readOperations fuel op.rank rest with
      | (b, some rest) => readOperationsBehind fuel rank (.apply op a b) rest
      | (b, none) => (.apply op a b, none)
    else (a, some (.operation op :: rest))
  | _ + 1, _, a, rest => (a, some rest)

/-- A number, a variable, an expression in parentheses, or one of them behind a sign. -/
def readOperand : Nat → List SumToken → Read
  | 0, _ => (.flawed .noOperand, none)
  | fuel + 1, tokens =>
    let signed (make : Sum → Sum) (rest : List SumToken) : Read :=
      let (sum, rest) := readOperand fuel rest
      (make sum, rest)
    match tokens with
    | .opened :: rest =>
      match readRow fuel rest with
      | (sum, some (.closed :: rest)) => (sum, some rest)
      | (sum, some _) => (.before sum .noClosing, none)
      | read => read
    | .number n :: rest => (.number n, some rest)
    | .word name :: .step width :: rest => (.step name width false, some rest)
    | .step width :: .word name :: rest => (.step name width true, some rest)
    | .step _ :: rest => readOperand fuel rest
    | .word name :: rest => (.named name, some rest)
    | .operation .add :: rest => readOperand fuel rest
    | .operation .subtract :: rest => signed .negate rest
    | .not :: rest => signed .not rest
    | .invert :: rest => signed .invert rest
    | _ => (.flawed .noOperand, none)

end

/-- The expression of a text. In the extended language a blank one is zero. -/
def ofText (language : Language) (text : Bytes) : Sum :=
  let tokens := SumToken.readAll language (text.length + 1) text
  if language.isExtended && tokens.isEmpty then .number 0 else
  match readRow (12 * text.length + 12) tokens with
  | (sum, some []) => sum
  | (sum, some _) => .before sum .noEnd
  | (sum, none) => sum

end Sum

namespace Operation

/-- What an operation yields; none for a division by zero. -/
def result? (op : Operation) (a b : Int) : Option Int :=
  let truth (holds : Bool) : Option Int := some (if holds then 1 else 0)
  match op with
  | multiply => some (wrap (a * b))
  | divide => if b = 0 then none else some (wrap (a.tdiv b))
  | remainder => if b = 0 then none else some (a.tmod b)
  | add => some (wrap (a + b))
  | subtract => some (wrap (a - b))
  | shiftLeft => some ((BitVec.ofInt 64 a).shiftLeft (b % 64).toNat).toInt
  | shiftRight => some (a.shiftRight (b % 64).toNat)
  | less => truth (a < b)
  | lessOrEqual => truth (a ≤ b)
  | greater => truth (b < a)
  | greaterOrEqual => truth (b ≤ a)
  | equal => truth (a = b)
  | unequal => truth (a ≠ b)
  | bitAnd => some (BitVec.ofInt 64 a &&& BitVec.ofInt 64 b).toInt
  | bitXor => some (BitVec.ofInt 64 a ^^^ BitVec.ofInt 64 b).toInt
  | bitOr => some (BitVec.ofInt 64 a ||| BitVec.ofInt 64 b).toInt

end Operation

namespace Sum

/-- The number of the signal that ends a process which divides the least number by minus one. -/
def overflowSignal : Nat := 8

/-- Fails because of a flaw of a text. -/
def refuse {α : Type} (text : Bytes) (flaw : SumFlaw) : Action α := do
  match (← get).language with
  | .standard =>
    Action.failWith
      (Bytes.ofString s!"arithmetic expression: {flaw.message}: \"" ++ text ++ [Bytes.quote])
  | .extended => Action.failAbout text flaw.extendedMessage

/-- What an operation yields in the expression of a text. -/
def operate (text : Bytes) (op : Operation) (a b : Int) : Action Int := do
  if (op = .divide ∨ op = .remainder) ∧ a = least ∧ b = -1 then
    throw (.killed overflowSignal)
  match op.result? a b with
  | some n => return n
  | none => refuse text .divisionByZero

/-- How many variables are looked at in a row of which each holds the name of the next one. -/
def nameLimit : Nat := 1000

/-- The value at the end of such a row. -/
def namedValue (p : Process) : Nat → Bytes → Bytes
  | 0, name => name
  | fuel + 1, name =>
    let value := (p.parameter? name).getD []
    if p.language.isExtended && isName value then namedValue p fuel value else value

/-- The number that a variable holds. -/
def lookup (name : Bytes) : Action Int := do
  let value := namedValue (← get) nameLimit name
  match valueNumber? value with
  | some n => return n
  | none => Action.failNumber value

/-- A power in the lowest 64 bits. -/
def powerOf (base : Int) (exponent : Nat) : Int :=
  if _ : exponent = 0 then 1
  else
    let half := powerOf base (exponent / 2)
    let square := wrap (half * half)
    if exponent % 2 = 0 then square else wrap (square * base)
termination_by exponent
decreasing_by omega

/-- Computes the expression of a text. One that is skipped yields nothing of use, looks up and
assigns nothing, but its flaws are told. -/
def compute (text : Bytes) (skips : Bool) : Sum → Action Int
  | flawed flaw => refuse text flaw
  | before sum flaw => do
    let _ ← compute text skips sum
    refuse text flaw
  | number n => return n
  | named name => if skips then return 0 else lookup name
  | negate sum => return wrap (-(← compute text skips sum))
  | not sum => return if (← compute text skips sum) = 0 then 1 else 0
  | invert sum => return -(← compute text skips sum) - 1
  | apply op a b => do
    let m ← compute text skips a
    let n ← compute text skips b
    if skips then return 0 else operate text op m n
  | both a b => do
    let m ← compute text skips a
    let n ← compute text (skips || m = 0) b
    return if m ≠ 0 ∧ n ≠ 0 then 1 else 0
  | either a b => do
    let m ← compute text skips a
    let n ← compute text (skips || m ≠ 0) b
    return if m ≠ 0 ∨ n ≠ 0 then 1 else 0
  | choose condition a b => do
    let c ← compute text skips condition
    let m ← compute text (skips || c = 0) a
    let n ← compute text (skips || c ≠ 0) b
    return if c ≠ 0 then m else n
  | assign name op sum => do
    let n ← compute text skips sum
    if skips then return n
    let value ← match op with
      | none => pure n
      | some op => do operate text op (← lookup name) n
    setVariable name (integerText value)
    return value
  | power a b => do
    let m ← compute text skips a
    let n ← compute text skips b
    if skips then return 0
    if n < 0 then refuse text .negativeExponent
    return powerOf m n.toNat
  | step name width isBefore => do
    if skips then return 0
    let n ← lookup name
    let value := wrap (n + width)
    setVariable name (integerText value)
    return if isBefore then value else n
  | pair a b => do
    let _ ← compute text skips a
    compute text skips b

end Sum

/-- The value of a text as an expression. -/
def evaluateSum (text : Bytes) : Action Int := do
  Sum.compute text false (Sum.ofText (← get).language text)

end Intercept.Shell
