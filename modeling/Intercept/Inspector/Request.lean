import Intercept.Event

/-!
# What the inspector is asked

The inspector's arguments name one of three commands, and may give an output format and a log level
before or after it. An option's value is examined only when the next option begins or the arguments
end, so that an unknown argument is reported rather than a bad value just before it. A value given
after the command overrides one given before it.
-/

namespace Intercept.Inspector

inductive OutputFormat where
  | plain
  | json
  deriving DecidableEq, Repr

namespace OutputFormat

def all : List OutputFormat := [plain, json]

def name : OutputFormat → String
  | plain => "plain"
  | json => "json"

/-- The format of a name. Case counts. -/
def ofName? (name : String) : Option OutputFormat := all.find? (·.name = name)

theorem ofName?_name (format : OutputFormat) : ofName? format.name = some format := by
  cases format <;> decide

end OutputFormat

/-- What is said of a word that names no format and no level. -/
def unknownName (word : String) : String := s!"invalid variant: {word}"

inductive Command where
  | sources (file : Option Bytes) (unique : Bool)
  | records (file : Option Bytes)
  | config
  deriving DecidableEq, Repr

structure Request where
  command : Command
  format : OutputFormat
  level : Level
  deriving DecidableEq, Repr

/-- Why the arguments ask for nothing that can be done. Help and version are asked for; the others
are mistakes. -/
inductive Usage where
  | help
  | version
  | nothingAsked
  | missingCommand
  | unknownCommand
  | unknownArgument
  | invalidValue
  | repeated
  | needlessValue
  deriving DecidableEq, Repr

/-- The exit code: zero where the reader asked for the text that is shown. -/
def Usage.exitCode : Usage → Nat
  | help => 0
  | version => 0
  | _ => 2

/-- The options that take a value. -/
inductive Setting where
  | format
  | level
  deriving DecidableEq, Repr

/-- Where an argument stands: before the command, or behind it. -/
inductive Scope where
  | before
  | sources
  | records
  | config
  deriving DecidableEq, Repr

namespace Scope

def ofName? (name : Bytes) : Option Scope :=
  if name = Bytes.ofString "sources" then some sources
  else if name = Bytes.ofString "records" then some records
  else if name = Bytes.ofString "config" then some config
  else none

/-- Whether the command reads a log that can be named. -/
def takesFile : Scope → Bool
  | sources => true
  | records => true
  | _ => false

end Scope

/-- What a long option stands for. -/
inductive LongOption where
  | setting (s : Setting)
  | unique
  | help
  | version
  deriving DecidableEq, Repr

def LongOption.ofName? (scope : Scope) (name : Bytes) : Option LongOption :=
  if name = Bytes.ofString "format" then some (.setting .format)
  else if name = Bytes.ofString "log-level" then some (.setting .level)
  else if name = Bytes.ofString "help" then some .help
  else if name = Bytes.ofString "version" && scope = .before then some .version
  else if name = Bytes.ofString "unique" && scope = .sources then some .unique
  else none

/-- The forms of an argument. -/
inductive Word where
  | separator
  | long (name : Bytes) (value : Option Bytes)
  | short (letter : UInt8)
  | value (bytes : Bytes)
  deriving DecidableEq, Repr

def Word.of (argument : Bytes) : Word :=
  match argument with
  | [0x2D, 0x2D] => separator
  | 0x2D :: 0x2D :: rest =>
    let (name, attached) := Bytes.breakAt Bytes.equalsSign rest
    long name attached
  | 0x2D :: letter :: _ => short letter
  | bytes => value bytes

/-- A value that has been read and not examined. -/
inductive Pending where
  | setting (s : Setting) (value : Option Bytes)
  | file (path : Bytes)
  deriving DecidableEq, Repr

/-- What the arguments of one scope have given so far. -/
structure Given where
  format : Option OutputFormat := none
  level : Option Level := none
  file : Option Bytes := none
  unique : Bool := false
  pending : Option Pending := none
  deriving DecidableEq, Repr

namespace Given

/-- Takes over the value of an option, which may be given once. -/
def set (given : Given) (s : Setting) (value : Bytes) : Except Usage Given :=
  match s with
  | .format =>
    if given.format.isSome then .error .repeated
    else
      match (Utf8.text? value).bind OutputFormat.ofName? with
      | none => .error .invalidValue
      | some format => .ok { given with format := some format }
  | .level =>
    if given.level.isSome then .error .repeated
    else
      match (Utf8.text? value).bind Level.ofName? with
      | none => .error .invalidValue
      | some level => .ok { given with level := some level }

/-- Examines the value that has been left. -/
def settle (given : Given) : Except Usage Given :=
  let settled := { given with pending := none }
  match given.pending with
  | none => .ok settled
  | some (.setting _ none) => .error .invalidValue
  | some (.setting s (some value)) => settled.set s value
  | some (.file path) =>
    if path = [] then .error .invalidValue else .ok { settled with file := some path }

/-- Whether the next plain word is the value of an option. -/
def awaitsValue (given : Given) : Option Setting :=
  match given.pending with
  | some (.setting s none) => some s
  | _ => none

/-- Whether a file has been given, examined or not. -/
def hasFile (given : Given) : Bool :=
  given.file.isSome ||
    match given.pending with
    | some (.file _) => true
    | _ => false

/-- A long option. -/
def long (given : Given) (scope : Scope) (name : Bytes) (value : Option Bytes) :
    Except Usage Given :=
  match LongOption.ofName? scope name, value with
  | none, _ => .error .unknownArgument
  | some (.setting s), none => do
    let settled ← given.settle
    .ok { settled with pending := some (.setting s none) }
  | some (.setting s), some value => do
    let settled ← given.settle
    settled.set s value
  | some _, some _ => .error .needlessValue
  | some .unique, none => do
    let settled ← given.settle
    if settled.unique then .error .repeated else .ok { settled with unique := true }
  | some .help, none => do
    let _ ← given.settle
    .error .help
  | some .version, none => do
    let _ ← given.settle
    .error .version

/-- An option of one letter. -/
def short (given : Given) (scope : Scope) (letter : UInt8) : Except Usage Given :=
  if letter = 0x68 then do
    let _ ← given.settle
    .error .help
  else if letter = 0x56 ∧ scope = .before then do
    let _ ← given.settle
    .error .version
  else .error .unknownArgument

/-- A plain word behind a command: the log to read, for a command that has none yet. -/
def nameFile (given : Given) (scope : Scope) (path : Bytes) : Except Usage Given :=
  if scope.takesFile && !given.hasFile then do
    let settled ← given.settle
    .ok { settled with pending := some (.file path) }
  else .error .unknownArgument

end Given

/-- The arguments behind a command. `separated` says whether the separator has been passed, after
which every argument is a plain word. -/
def readBehind (scope : Scope) : (separated : Bool) → Given → List Bytes → Except Usage Given
  | _, given, [] => given.settle
  | true, given, argument :: rest => do readBehind scope true (← given.nameFile scope argument) rest
  | false, given, argument :: rest =>
    match Word.of argument, given.awaitsValue with
    | .separator, _ => readBehind scope true given rest
    | .long name value, _ => do readBehind scope false (← given.long scope name value) rest
    | .short letter, _ => do readBehind scope false (← given.short scope letter) rest
    | .value bytes, some s =>
      readBehind scope false { given with pending := some (.setting s (some bytes)) } rest
    | .value bytes, none => do readBehind scope false (← given.nameFile scope bytes) rest

/-- The command's name is `help`. -/
def isHelp (name : Bytes) : Bool := name = Bytes.ofString "help"

/-- What asking for help on the named commands comes to. -/
def helpOn : List Bytes → Usage
  | [] => .help
  | [name] => if (Scope.ofName? name).isSome || isHelp name then .help else .unknownCommand
  | _ => .unknownCommand

/-- Both parts of the arguments together. -/
def join (before behind : Given) (scope : Scope) : Except Usage Request :=
  let format := ((behind.format <|> before.format).getD .plain)
  let level := ((behind.level <|> before.level).getD .warn)
  match scope with
  | .sources => .ok ⟨.sources behind.file behind.unique, format, level⟩
  | .records => .ok ⟨.records behind.file, format, level⟩
  | .config => .ok ⟨.config, format, level⟩
  | .before =>
    if before.format.isSome || before.level.isSome then .error .missingCommand
    else .error .nothingAsked

/-- The arguments before a command, and then those behind it. -/
def readBefore : (separated : Bool) → Given → List Bytes → Except Usage Request
  | _, given, [] => do join (← given.settle) {} .before
  | true, _, argument :: _ =>
    if (Scope.ofName? argument).isSome || isHelp argument then .error .unknownArgument
    else .error .unknownCommand
  | false, given, argument :: rest =>
    match Word.of argument, given.awaitsValue with
    | .separator, _ => readBefore true given rest
    | .long name value, _ => do readBefore false (← given.long .before name value) rest
    | .short letter, _ => do readBefore false (← given.short .before letter) rest
    | .value bytes, some s =>
      readBefore false { given with pending := some (.setting s (some bytes)) } rest
    | .value bytes, none =>
      if isHelp bytes then .error (helpOn rest)
      else
        match Scope.ofName? bytes with
        | none => .error .unknownCommand
        | some scope => do
          let behind ← readBehind scope false {} rest
          join (← given.settle) behind scope

/-- The request that the arguments make. -/
def Request.ofArguments (arguments : List Bytes) : Except Usage Request :=
  readBefore false {} arguments

end Intercept.Inspector
