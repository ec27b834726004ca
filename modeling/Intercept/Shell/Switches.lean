import Intercept.Shell.Language
import Intercept.Shell.Names

/-!
# Switches of the shell

Letters behind a minus sign turn switches on, and behind a plus sign off. The words that do so end
at the first other word, or behind a mark.
-/

namespace Intercept.Shell

structure Switches where
  exitOnFailure : Bool := false
  readOnly : Bool := false
  plainPaths : Bool := false
  needValues : Bool := false
  traces : Bool := false
  exportsAll : Bool := false
  protectsFiles : Bool := false
  /-- The names of the other switches that are on. They change nothing in what programs do. -/
  others : List String := []
  deriving DecidableEq, Repr

/-- The names of the switches, each with its letter if it has one, in the order of their listing. -/
def switchNames : Language → List (String × Option Char)
  | .standard =>
    [("errexit", some 'e'), ("noglob", some 'f'), ("ignoreeof", some 'I'),
      ("interactive", some 'i'), ("monitor", some 'm'), ("noexec", some 'n'), ("stdin", some 's'),
      ("xtrace", some 'x'), ("verbose", some 'v'), ("vi", some 'V'), ("emacs", some 'E'),
      ("noclobber", some 'C'), ("allexport", some 'a'), ("notify", some 'b'),
      ("nounset", some 'u'), ("privileged", some 'p'), ("nolog", none), ("debug", none)]
  | .extended =>
    [("allexport", some 'a'), ("braceexpand", some 'B'), ("emacs", none), ("errexit", some 'e'),
      ("errtrace", some 'E'), ("functrace", some 'T'), ("hashall", some 'h'),
      ("histexpand", some 'H'), ("history", none), ("ignoreeof", none),
      ("interactive-comments", none), ("keyword", some 'k'), ("monitor", some 'm'),
      ("noclobber", some 'C'), ("noexec", some 'n'), ("noglob", some 'f'), ("nolog", none),
      ("notify", some 'b'), ("nounset", some 'u'), ("onecmd", some 't'), ("physical", some 'P'),
      ("pipefail", none), ("posix", none), ("privileged", some 'p'), ("verbose", some 'v'),
      ("vi", none), ("xtrace", some 'x')]

/-- The switches that are on at the start of a shell which is not asked for others. -/
def firstSwitches : Language → List String
  | .standard => []
  | .extended => ["braceexpand", "hashall", "interactive-comments"]

/-- The letters in the order in which they are shown together. Those of how the program is given
come last in the extended language. -/
def shownLetters : Language → List (String × Char)
  | .standard =>
    (switchNames .standard).reverse.filterMap fun (name, letter) => letter.map (name, ·)
  | .extended =>
    let own := "abefhikmnptuvxBCEHPT".toList.filterMap fun letter =>
      ((switchNames .extended).find? (·.2 = some letter)).map fun (name, _) => (name, letter)
    own ++ [("command", 'c'), ("stdin", 's')]

/-- The name of the switch that has a letter. -/
def switchOfLetter? (language : Language) (letter : UInt8) : Option String :=
  ((switchNames language).find? fun (_, own) => own.any (·.toUInt8 = letter)).map (·.1)

/-- The name of a switch, if it is one. -/
def switchOfName? (language : Language) (name : Bytes) : Option String :=
  ((switchNames language).find? fun (own, _) => Bytes.ofString own = name).map (·.1)

namespace Switches

/-- The switches with one of them turned. -/
def turn (switches : Switches) (value : Bool) (name : String) : Switches :=
  match name with
  | "errexit" => { switches with exitOnFailure := value }
  | "noglob" => { switches with plainPaths := value }
  | "noexec" => { switches with readOnly := value }
  | "nounset" => { switches with needValues := value }
  | "xtrace" => { switches with traces := value }
  | "allexport" => { switches with exportsAll := value }
  | "noclobber" => { switches with protectsFiles := value }
  | _ =>
    let others := switches.others.filter (· ≠ name)
    { switches with others := if value then name :: others else others }

/-- Whether a switch is on. -/
def isOn (switches : Switches) (name : String) : Bool :=
  match name with
  | "errexit" => switches.exitOnFailure
  | "noglob" => switches.plainPaths
  | "noexec" => switches.readOnly
  | "nounset" => switches.needValues
  | "xtrace" => switches.traces
  | "allexport" => switches.exportsAll
  | "noclobber" => switches.protectsFiles
  | _ => switches.others.contains name

/-- All switches on. -/
def all : Switches :=
  (switchNames .standard).foldl (fun switches (name, _) => switches.turn true name) {}

/-- The switches at the start of a shell. -/
def atStart (language : Language) : Switches :=
  (firstSwitches language).foldl (fun switches name => switches.turn true name) {}

/-- The switches with those off that show what is read and carried out. -/
def quiet (switches : Switches) : Switches :=
  (switches.turn false "xtrace").turn false "verbose"

/-- The letters of the switches that are on. -/
def letters (switches : Switches) (language : Language) : Bytes :=
  (shownLetters language).filterMap fun (name, letter) =>
    if switches.isOn name then some letter.toUInt8 else none

/-- The names of the switches, and whether they are on. -/
def table (switches : Switches) (language : Language) : Bytes :=
  let row (width : Nat) (behind name : String) : String :=
    let blanks := String.ofList (List.replicate (width - name.length) ' ') ++ behind
    name ++ blanks ++ (if switches.isOn name then "on" else "off") ++ "\n"
  let rows (width : Nat) (behind : String) : String :=
    String.join ((switchNames language).map fun (name, _) => row width behind name)
  match language with
  | .standard => Bytes.ofString ("Current option settings\n" ++ rows 16 "")
  | .extended => Bytes.ofString (rows 15 "\t")

/-- Commands that turn the switches the way they are turned. -/
def commands (switches : Switches) (language : Language) : Bytes :=
  Bytes.ofString (String.join ((switchNames language).map fun (name, _) =>
    "set " ++ (if switches.isOn name then "-" else "+") ++ "o " ++ name ++ "\n"))

end Switches

/-- What words that turn switches come to. -/
structure SwitchWords where
  language : Language := .standard
  switches : Switches := {}
  /-- The switches as lists show them, among which those are on at the start of a shell that no
  word has turned. -/
  shown : Switches := {}
  /-- Whether the program is the first of the operands, rather than in the file it names. -/
  fromText : Bool := false
  /-- Whether the program is read from the standard input. -/
  fromInput : Bool := false
  /-- The switches as they are where words ask for a list, as a table or as commands. -/
  listing : Bytes := []
  /-- What is no switch, where the words are read no further, and whether it should be the name of
  one. -/
  flaw : Option Bytes := none
  isNamed : Bool := false
  /-- The words behind, if there are any or a mark says that there are none. -/
  operands : Option (List Bytes) := none

/-- Turns a switch. The one for programs from the input also says that there is one. -/
def SwitchWords.turn (read : SwitchWords) (value : Bool) (name : String) : SwitchWords :=
  { read with
    switches := read.switches.turn value name
    shown := read.shown.turn value name
    fromInput := if name = "stdin" then value else read.fromInput }

/-- Turns the switch of a letter. Of the two ways to edit lines, the letter for one turns off the
other. -/
def SwitchWords.turnLetter (read : SwitchWords) (value : Bool) (name : String) : SwitchWords :=
  let turned := read.turn value name
  if value && name = "vi" then turned.turn false "emacs"
  else if value && name = "emacs" then turned.turn false "vi"
  else turned

/-- Letters at the start of a shell that change nothing in what programs do. -/
def extraLetters : Language → String
  | .standard => "l"
  | .extended => "lriD"

/-- Reads the letters that are left of a word, and the words behind it. Letters that only the start
of a shell knows are read where `starting`. -/
def SwitchWords.readOn (starting : Bool) (read : SwitchWords) (value : Bool) (letters : Bytes)
    (words : List Bytes) : SwitchWords :=
  match letters, words with
  | letter :: letters, words =>
    let isExtra := (Bytes.ofString (extraLetters read.language)).contains letter
    if letter = 0x63 ∧ starting then
      readOn starting { read with fromText := true } value letters words
    else if letter = 0x73 ∧ starting ∧ read.language.isExtended then
      readOn starting (read.turn value "stdin") value letters words
    else if isExtra ∧ starting then readOn starting read value letters words
    else if letter = 0x6F then
      match words with
      | [] =>
        let list := if value then read.shown.table else read.shown.commands
        let listing := read.listing ++ list read.language
        readOn starting { read with listing } value letters []
      | name :: words =>
        match switchOfName? read.language name with
        | some own => readOn starting (read.turn value own) value letters words
        | none =>
          let isNamed := read.language.isExtended
          let flaw := if isNamed then name else 0x6F :: Bytes.space :: name
          { read with flaw := some flaw, isNamed }
    else
      match switchOfLetter? read.language letter with
      | some own => readOn starting (read.turnLetter value own) value letters words
      | none => { read with flaw := some [letter] }
  | [], [] => read
  | [], word :: words =>
    match word with
    | [0x2D] =>
      let keeps := starting || read.language.isExtended
      let switches := if keeps then read.switches else read.switches.quiet
      { read with switches, operands := if words = [] then none else some words }
    | [0x2D, 0x2D] => { read with operands := some words }
    | 0x2D :: letters => readOn starting read true letters words
    | 0x2B :: letters => readOn starting read false letters words
    | _ => { read with operands := some (word :: words) }
termination_by (words.length, letters.length)

/-- Reads words that turn switches. -/
def SwitchWords.read (language : Language) (starting : Bool) (switches : Switches)
    (words : List Bytes) : SwitchWords :=
  let shown := if starting && language = .standard then .all else switches
  readOn starting { language, switches, shown } true [] words

end Intercept.Shell
