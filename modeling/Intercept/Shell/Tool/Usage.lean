import Intercept.Shell.Quoting
import Intercept.Shell.Variables

/-!
# How tools are used

A tool reads options anywhere among its arguments, writes messages behind its name, and ends with a
status.
-/

namespace Intercept.Shell.Tool

/-- Writes a message behind the name of the tool. -/
def remark (message : Bytes) : Action Unit := do
  Action.tell ((← get).name ++ Bytes.ofString ": " ++ message)

/-- Says where help is found. -/
def tellHelp : Action Unit := do
  Action.tell (Bytes.ofString "Try '" ++ (← get).name ++
    Bytes.ofString " --help' for more information.")

/-- Says that the tool is not used as it should be, and where help is found. -/
def refuseUse (message : Bytes) : Action Unit := do
  remark message
  tellHelp

/-- Why something is not possible. -/
def reason (cause : Cause) : String :=
  match cause with
  | .numbered errno => errno.description
  | other => other.message

/-- Writes a message about a path. -/
def explain (before : String) (shown : Bytes) (why : String) : Action Unit :=
  remark (Bytes.ofString before ++ shown ++ Bytes.ofString s!": {why}")

/-- Writes to the standard output, and tells whether that was possible. -/
def emit (bytes : Bytes) : Action Bool := do
  match ← Action.writeTo 1 bytes with
  | .ok _ => return true
  | .error errno =>
    remark (Bytes.ofString s!"write error: {errno.description}")
    return false

/-- Options and operands. -/
structure Use where
  options : List (Char × Bytes) := []
  operands : List Bytes := []

namespace Use

def has (use : Use) (letter : Char) : Bool := use.options.any (·.1 = letter)

def hasAny (use : Use) (letters : String) : Bool := letters.toList.any use.has

/-- The argument of the last option of a letter. -/
def argument? (use : Use) (letter : Char) : Option Bytes :=
  (use.options.reverse.find? (·.1 = letter)).map (·.2)

/-- The byte behind each line that is written. -/
def lineEnd (use : Use) : UInt8 := if use.has 'z' then 0 else Bytes.newline

/-- Options that a tool knows: letters, behind which a colon asks for an argument, and the letters
that longer names stand for. A letter that is no byte can be given by its name only. -/
structure Known where
  letters : String
  names : List (String × Char) := []

/-- A longer name and its letter. The front of the name is enough if no other begins so. -/
def Known.named? (known : Known) (name : Bytes) : Option (String × Char) :=
  match known.names.find? fun (own, _) => Bytes.ofString own = name with
  | some found => some found
  | none =>
    match known.names.filter fun (own, _) => name.isPrefixOf (Bytes.ofString own) with
    | [found] => some found
    | _ => none

/-- Reads the letters that are left of a word, and the words behind it. A failure is a message. -/
def read (known : Known) (use : Use) (letters : Bytes) (words : List Bytes) : Except Bytes Use :=
  let letterOf (c : Char) : List Char := known.letters.toList.dropWhile (· ≠ c)
  match letters, words with
  | letter :: letters, words =>
    let c := Bytes.asChar letter
    let add (argument : Bytes) : Use := { use with options := use.options ++ [(c, argument)] }
    match letterOf c with
    | [] => .error (Bytes.ofString "invalid option -- '" ++ letter :: Bytes.ofString "'")
    | _ :: ':' :: _ =>
      match letters, words with
      | _ :: _, words => read known (add letters) [] words
      | [], word :: words => read known (add word) [] words
      | [], [] =>
        .error (Bytes.ofString "option requires an argument -- '" ++ letter :: Bytes.ofString "'")
    | _ => read known (add []) letters words
  | [], [] => .ok { use with operands := use.operands.reverse }
  | [], word :: words =>
    match word with
    | [0x2D, 0x2D] => .ok { use with operands := use.operands.reverse ++ words }
    | 0x2D :: 0x2D :: rest =>
      let (name, argument) := Bytes.breakAt Bytes.equalsSign rest
      match known.named? name with
      | none => .error (Bytes.ofString "unrecognized option '" ++ word ++ Bytes.ofString "'")
      | some (own, c) =>
        let add (argument : Bytes) : Use := { use with options := use.options ++ [(c, argument)] }
        match letterOf c, argument, words with
        | _ :: ':' :: _, some text, words => read known (add text) [] words
        | _ :: ':' :: _, none, text :: words => read known (add text) [] words
        | _ :: ':' :: _, none, [] =>
          .error (Bytes.ofString s!"option '--{own}' requires an argument")
        | _, some _, _ => .error (Bytes.ofString s!"option '--{own}' doesn't allow an argument")
        | _, none, words => read known (add []) [] words
    | 0x2D :: letter :: letters => read known use (letter :: letters) words
    | _ => read known { use with operands := word :: use.operands } [] words
termination_by (words.length, letters.length)

/-- Whether the word behind an option is its argument. -/
def Known.takesNext (known : Known) (word : Bytes) : Bool :=
  let takes (c : Char) : Bool := match known.letters.toList.dropWhile (· ≠ c) with
    | _ :: ':' :: _ => true
    | _ => false
  match word with
  | 0x2D :: 0x2D :: name => (known.named? name).any fun (_, c) => takes c
  | 0x2D :: letters =>
    match letters.dropWhile fun letter => !takes (Bytes.asChar letter) with
    | [_] => true
    | _ => false
  | _ => false

/-- Words cut in front of the first operand, which may look like an option. -/
def Known.cutFront (known : Known) (isOperand : Bytes → Bool) :
    List Bytes → List Bytes × List Bytes
  | [] => ([], [])
  | [0x2D, 0x2D] :: rest => ([], rest)
  | word :: rest =>
    if isOperand word || word.head? ≠ some 0x2D || word = [0x2D] then ([], word :: rest)
    else
      match known.takesNext word, rest with
      | true, argument :: rest =>
        let (front, operands) := known.cutFront isOperand rest
        (word :: argument :: front, operands)
      | _, rest =>
        let (front, operands) := known.cutFront isOperand rest
        (word :: front, operands)

end Use

/-- Carries out a tool with the options that it knows; a status tells that others were given. -/
def withUse (known : Use.Known) (refusal : Nat) (action : Use → Action Nat)
    (words : List Bytes) : Action Nat := do
  match Use.read known {} [] words with
  | .ok use => action use
  | .error message =>
    refuseUse message
    return refusal

/-- Carries out a tool whose options all stand in front of the first operand. -/
def withFront (known : Use.Known) (refusal : Nat) (action : Use → Action Nat)
    (words : List Bytes) (isOperand : Bytes → Bool := fun _ => false) : Action Nat := do
  let (front, operands) := known.cutFront isOperand words
  withUse known refusal (fun use => action { use with operands }) front

end Intercept.Shell.Tool
