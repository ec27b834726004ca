import Intercept.Shell.System

/-!
# Processes

A process is its own course and the system that it shares with all others.
-/

namespace Intercept.Shell

/-- A process that carries out commands. -/
structure Process extends Course where
  system : System

namespace Process

/-- The variable of a name. -/
def binding? (p : Process) (name : Bytes) : Option Variable := p.bindings.lookup name

/-- The value of a variable. -/
def setting? (p : Process) (name : Bytes) : Option Bytes := (p.binding? name).bind (·.value)

/-- The value of a variable with a given name. -/
def settingOf? (p : Process) (name : String) : Option Bytes := p.setting? (Bytes.ofString name)

/-- The process with a variable in the place of the one of that name, or behind all others. -/
def putVariable (p : Process) (name : Bytes) (v : Variable) : Process :=
  if (p.binding? name).isSome then
    { p with bindings := p.bindings.map fun (n, old) => if n = name then (n, v) else (n, old) }
  else { p with bindings := p.bindings ++ [(name, v)] }

def dropVariable (p : Process) (name : Bytes) : Process :=
  { p with bindings := p.bindings.filter (·.1 ≠ name) }

def setChannel (p : Process) (n : Nat) (channel : Option Channel) : Process :=
  let others := p.channels.filter (·.1 ≠ n)
  { p with channels := match channel with
      | some c => (n, c) :: others
      | none => others }

/-- The bytes that separate fields: blanks, tabs and newlines where none are set. -/
def separatorBytes (p : Process) : Bytes :=
  (p.settingOf? "IFS").getD [Bytes.space, Bytes.tab, Bytes.newline]

def separators (p : Process) : Separators := .ofBytes p.separatorBytes

/-- The process with a new stream, and the number of the stream. -/
def openStream (p : Process) (contents : Bytes) : Nat × Process :=
  let index := p.system.streams.size
  let streams := p.system.streams.push { front := contents }
  (index, { p with system := { p.system with streams } })

def changeStream (p : Process) (index : Nat) (change : Stream → Stream) : Process :=
  let system := p.system.touchedStream index
  { p with system := { system with streams := system.streams.modify index change } }

/-- What can be read from a stream. -/
def stream (p : Process) (index : Nat) : Bytes := ((p.system.streams[index]?).getD {}).bytes

/-- The process with a new open file, and its number. -/
def openFile (p : Process) (file : OpenFile) : Nat × Process :=
  let index := p.system.files.size
  (index, { p with system := { p.system with files := p.system.files.push file } })

/-- The process with another offset in an open file. -/
def moveTo (p : Process) (index offset : Nat) : Process :=
  let system := p.system.touchedFile index
  let files := system.files.modify index fun file => { file with offset }
  { p with system := { system with files } }

/-- The directory in which a process finds what its channels lead to. -/
def channelsPlace : Files.Place := ["proc", "self", "fd"].map Bytes.ofString

/-- The place of an open file: where it is now, or where it was when it was opened. -/
def placeOf (p : Process) (file : OpenFile) : Files.Place :=
  ((p.system.tree.numbered? file.number).map (·.place)).getD file.place

/-- What a process finds of one of its channels. -/
def channelEntry (p : Process) : Nat × Channel → Files.Entry
  | (n, channel) =>
    let node : Files.Node := match channel with
      | .file index =>
        match p.system.files[index]? with
        | some file => .link (Files.placeText (p.placeOf file))
        | none => .stream n
      | _ => .stream n
    { place := channelsPlace ++ [Bytes.ofString (toString n)]
      node
      attributes := { mode := node.usualMode } }

/-- The place at which a process finds its directory. -/
def directoryPlace : Files.Place := ["proc", "self", "cwd"].map Bytes.ofString

/-- What a process finds of itself in the tree. Nothing of it has a number. -/
def ownEntries (p : Process) : List Files.Entry :=
  let node : Files.Node := .link (Files.placeText p.directory)
  { place := directoryPlace, node, attributes := { mode := node.usualMode } } ::
    p.channels.map p.channelEntry

/-- The tree as the process sees it. -/
def tree (p : Process) : Files.Tree :=
  { p.system.tree with entries := p.ownEntries ++ p.system.tree.entries }

/-- The process after a change of the tree that it sees. -/
def setTree (p : Process) (tree : Files.Tree) : Process :=
  let shared := { tree with entries := tree.entries.dropWhile (·.attributes.number = 0) }
  { p with system := { p.system.touched with tree := shared } }

/-- The open file that a channel leads to, with its number. -/
def fileAt? (p : Process) (n : Nat) : Option (Nat × OpenFile) :=
  match p.channels.lookup n with
  | some (.file index) => (p.system.files[index]?).map (index, ·)
  | _ => none

/-- What an open file is now, unless it is gone. -/
def nodeOf? (p : Process) (file : OpenFile) : Option Files.Node :=
  if file.number = 0 then p.system.tree.get? file.place
  else (p.system.tree.numbered? file.number).map (·.node)

/-- What can be read from an open file. -/
def contentsOf (p : Process) (file : OpenFile) : Except Errno Bytes :=
  match p.nodeOf? file with
  | some node => node.contents file.offset
  | none => .ok (file.contents.drop file.offset)

/-- The offset at which the next bytes are written. -/
def endOffset (p : Process) (file : OpenFile) : Nat :=
  match file.appends, p.nodeOf? file with
  | true, some (.file contents) => contents.length
  | _, _ => file.offset

/-- The process after bytes were written to a channel, if that is possible. -/
def write (p : Process) (n : Nat) (bytes : Bytes) : Except Errno Process :=
  match p.channels.lookup n, p.fileAt? n with
  | some (.writing index), _ =>
    .ok (p.changeStream index (·.append { bytes, time := p.system.now, job := p.system.job }))
  | _, some (index, file) =>
    if !file.writes then .error .badDescriptor
    else
      let offset := p.endOffset file
      match p.system.tree.writeAt (p.placeOf file) offset bytes with
      | .ok tree => .ok ((p.setTree tree).moveTo index (offset + bytes.length))
      | .error (.numbered errno) => .error errno
      | .error _ => .error .ioError
  | _, _ => .error .badDescriptor

/-- What can be read from a channel. -/
def input? (p : Process) (n : Nat) : Except Errno Bytes :=
  match p.channels.lookup n, p.fileAt? n with
  | some (.reading index), _ => .ok (p.stream index)
  | _, some (_, file) => if file.reads then p.contentsOf file else .error .badDescriptor
  | _, _ => .error .badDescriptor

def input (p : Process) (n : Nat) : Bytes := (p.input? n).toOption.getD []

/-- The channel to whose stream a path leads. -/
def channelAt? (p : Process) (path : Bytes) : Option Nat :=
  match p.tree.node? p.directory path with
  | some (_, .stream n) => some n
  | _ => none

/-- The contents of the file that a path leads to, or what can be read from a stream. -/
def read (p : Process) (path : Bytes) : Except Cause Bytes :=
  match p.channelAt? path with
  | some n => (p.input? n).mapError .numbered
  | none => p.tree.read p.directory path

/-- A file with what can be read from a channel, where a node stands for its stream. -/
def fileOf (p : Process) : Files.Node → Files.Node
  | .stream n => .file (p.input n)
  | node => node

/-- The process after so many bytes of a channel were read. -/
def consume (p : Process) (n count : Nat) : Process :=
  match p.channels.lookup n, p.fileAt? n with
  | some (.reading index), _ => p.changeStream index (·.drop count)
  | _, some (index, file) => p.moveTo index (file.offset + count)
  | _, _ => p

/-- The process after so many bytes of the stream that a path leads to were read. -/
def consumeAt (p : Process) (path : Bytes) (count : Nat) : Process :=
  match p.channelAt? path with
  | some n => p.consume n count
  | none => p

/-- The commands for a signal, or for the end. -/
def trap? (p : Process) (signal : Nat) : Option Bytes := p.traps.lookup signal

/-- Whether commands are to be carried out for a signal or at the end. -/
def hasTraps (p : Process) : Bool := p.traps.any fun (_, commands) => !commands.isEmpty

/-- The process with other traps, and the guards that follow from them. -/
def setTraps (p : Process) (traps : List (Nat × Bytes)) : Process :=
  let own := (traps.filter (·.1 ≠ 0)).map fun (signal, commands) =>
    { process := p.number, signal, answers := !commands.isEmpty : Guard }
  let others := p.system.guards.filter (·.process ≠ p.number)
  { p with traps, system := { p.system with guards := own ++ others } }

/-- The rights that a new node gets of those that are asked for. -/
def rights (p : Process) (asked : Nat) : Nat := asked &&& (0o777 ^^^ p.mask)

/-- The line that the innermost text has come to. -/
def readingLine (p : Process) : Nat := p.readingLines.headD 1

/-- The copy of a process, under a number, that a shell starts to carry out some of its commands.
What signals are answered with is forgotten. -/
def copyAs (p : Process) (number : Nat) : Process :=
  let child : Process :=
    { p with
      number
      ancestors := p.number :: p.ancestors
      readingLines := p.readingLines.getLast?.toList
      skip := .nothing
      savedStatus := none
      jobs := [] }
  child.setTraps (p.traps.filter fun (_, commands) => commands.isEmpty)

/-- The process when so many numbers have been given to new ones, and these numbers. -/
def reserve (p : Process) (count : Nat) : List Nat × Process :=
  let first := p.system.processes + 1
  ((List.range count).map (first + ·),
    { p with system := { p.system with processes := p.system.processes + count } })

/-- The copy of a process under a new number. -/
def copy (p : Process) : Process :=
  let number := p.system.processes + 1
  let counted := { p with system := { p.system with processes := number } }
  counted.copyAs number

/-- How a job stands: it has ended, or goes on. -/
def outcome? (p : Process) (job : Job) : Option WaitStatus := p.system.ending? job.number

def isRunning (p : Process) (job : Job) : Bool := (p.outcome? job).isNone

end Process

end Intercept.Shell
