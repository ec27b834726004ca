import Intercept.Shell.Action

/-!
# Options of the shell's commands

Letters behind a minus sign, some of which take an argument. They end at the first word that has
none, or behind a word of two minus signs.
-/

namespace Intercept.Shell

/-- Options with their arguments, and the words behind them. -/
structure OptionWords where
  options : List (Char × Bytes) := []
  operands : List Bytes := []

namespace OptionWords

def has (read : OptionWords) (letter : Char) : Bool := read.options.any (·.1 = letter)

/-- Reads the letters that are left of a word, and the words behind it. A letter with a colon behind
it among the known ones takes an argument. -/
def readOn (known : Bytes) (read : OptionWords) (letters : Bytes) (words : List Bytes) :
    Action OptionWords :=
  match letters, words with
  | letter :: letters, words => do
    let c := Bytes.asChar letter
    match known.dropWhile (· ≠ letter) with
    | [] =>
      Action.failUse (Bytes.ofString s!"Illegal option -{c}")
        (Bytes.ofString s!"-{c}: invalid option")
    | _ :: 0x3A :: _ =>
      match letters, words with
      | _ :: _, words =>
        readOn known { read with options := read.options ++ [(c, letters)] } [] words
      | [], word :: words =>
        readOn known { read with options := read.options ++ [(c, word)] } [] words
      | [], [] =>
        Action.failUse (Bytes.ofString s!"No arg for -{c} option")
          (Bytes.ofString s!"-{c}: option requires an argument")
    | _ => readOn known { read with options := read.options ++ [(c, [])] } letters words
  | [], [0x2D, 0x2D] :: words => return { read with operands := words }
  | [], (0x2D :: letter :: letters) :: words => readOn known read (letter :: letters) words
  | [], words => return { read with operands := words }
termination_by (words.length, letters.length)

end OptionWords

/-- Refuses words one of which turns no switch. A list that others have asked for is still
written. -/
def refuseSwitches (read : SwitchWords) (word : Bytes) : Action Unit := do
  match read.language with
  | .standard => Action.complain (Bytes.ofString "Illegal option -" ++ word)
  | .extended =>
    if read.isNamed then Action.complain (Action.about word "invalid option name")
    else Action.complain (Action.about (0x2D :: word) "invalid option")
  let _ ← Action.write 1 read.listing
  Action.setStatus 2
  throw .failed

/-- Turns off the control of jobs, and says so: there is no terminal for it. In a copy of a shell,
which controls no jobs anyway, nobody looks. -/
def settleSwitches : Action Unit := do
  let p ← get
  let asks := p.language = .standard && p.switches.isOn "monitor"
  if asks && p.number = p.shellNumber then
    Action.complain (Bytes.ofString "can't access tty; job control turned off")
    modify fun p => { p with switches := p.switches.turn false "monitor" }

/-- Reads the options of a command. -/
def readOptions (known : String) (words : List Bytes) : Action OptionWords :=
  OptionWords.readOn (Bytes.ofString known) {} [] words

end Intercept.Shell
