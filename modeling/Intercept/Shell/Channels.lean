import Intercept.Shell.Expansion

/-!
# Connecting channels

A redirection connects a channel of a process to a file, to another channel, or to a text.
-/

namespace Intercept.Shell

/-- Connects a channel, or closes it. -/
def connect (n : Nat) (channel : Option Channel) : Action Unit :=
  modify fun p => p.setChannel n channel

/-- Connects a channel to a text that can be read from it. -/
def connectText (n : Nat) (text : Bytes) : Action Unit := do
  let (index, opened) := (← get).openStream text
  set opened
  connect n (some (.reading index))

/-- Connects a channel to an open file. -/
def connectFile (n : Nat) (file : OpenFile) : Action Unit := do
  let (index, opened) := (← get).openFile file
  set opened
  connect n (some (.file index))

/-- Fails because a file cannot be opened, or created. -/
def failOpening {α : Type} (creates : Bool) (path : Bytes) (cause : Cause) : Action α := do
  let description := match cause with
    | .numbered errno => errno.description
    | other => other.message
  match (← get).language with
  | .extended => Action.failAbout path description
  | .standard =>
    let isAbsent := match cause with
      | .numbered errno => errno.isAbsence
      | _ => false
    let why := if !isAbsent then description
      else if creates then "Directory nonexistent" else "No such file"
    let verb := if creates then "create " else "open "
    Action.failWith (Bytes.ofString ("cannot " ++ verb) ++ path ++ Bytes.ofString s!": {why}")

/-- What can be read from a file; nothing where a path leads to something else. -/
def contentsAt (path : Bytes) : Action Bytes := do
  let p ← get
  match p.tree.find p.directory path with
  | .ok (.node _ (.file contents)) => return contents
  | .ok (.node _ (.stream channel)) =>
    let text := p.input channel
    set (p.consume channel text.length)
    return text
  | .ok (.node ..) => return []
  | .ok (.free _) => failOpening false path (.numbered .noSuchFile)
  | .error cause => failOpening false path cause

/-- Connects a channel to what another one leads to. -/
def connectLike (n source : Nat) : Action Unit := do
  if let some channel := (← get).channels.lookup source then connect n (some channel)

/-- Connects a channel to a file, for reading. -/
def connectToRead (n : Nat) (path : Bytes) : Action Unit := do
  let p ← get
  match p.tree.find p.directory path with
  | .error cause => failOpening false path cause
  | .ok (.free _) => failOpening false path (.numbered .noSuchFile)
  | .ok (.node _ (.stream source)) => connectLike n source
  | .ok (.node _ (.device .terminal)) => failOpening false path (.numbered .noDevice)
  | .ok (.node place node) =>
    let number := ((p.tree.attributes? place).map (·.number)).getD 0
    let contents := match node with
      | .file contents => contents
      | _ => []
    connectFile n { place, number, contents, reads := true }

/-- Connects a channel to a file, which is created if it is not there. -/
def connectToWrite (n : Nat) (opening : Opening) (protects : Bool) (path : Bytes) :
    Action Unit := do
  let p ← get
  let tree := p.tree
  let isHere := (tree.node? p.directory path).isSome
  let empties := opening ≠ .append && opening ≠ .both
  let connectAt (place : Files.Place) : Action Unit := do
    let number := (((← get).tree.attributes? place).map (·.number)).getD 0
    connectFile n
      { place, number, writes := true, reads := opening = .both, appends := opening = .append }
  match tree.findToWrite p.directory path with
  | .error cause => failOpening (!(protects && isHere)) path cause
  | .ok (.free place) =>
    set (p.setTree (tree.create place (.file []) (p.rights 0o666)))
    connectAt place
  | .ok (.node place node) =>
    match node with
    | .stream source => connectLike n source
    | .file _ =>
      if protects then failOpening true path (.numbered .fileExists)
      if empties then set (p.setTree (tree.setContents place []))
      connectAt place
    | _ => connectAt place

/-- Connects the output to a file, and the messages to the same. -/
def connectOutputs (opening : Opening) (path : Bytes) : List Connection :=
  [.file 1 opening path, .duplicate 2 (some 1)]

/-- Expands the words of a redirection. What should be the number of a channel has one digit in the
standard language. In the extended one it may also be the path of a file for the output and the
messages. -/
def Connection.ofRedirect (output : Command → Action Bytes) (r : Redirect) :
    Action (List Connection) := do
  match r with
  | .document n number => return [.document n number]
  | .file n opening path => return [.file n opening (← expandText output {} path)]
  | .text n word => return [.text n ((← expandText output {} word) ++ [Bytes.newline])]
  | .outputs opening path => return connectOutputs opening (← expandText output {} path)
  | .duplicate n source =>
    match ← expandText output {} source with
    | [0x2D] => return [.duplicate n none]
    | given =>
      match given, number? given, (← get).language with
      | [_], some source, _ | _, some source, .extended => return [.duplicate n (some source)]
      | _, _, .standard => Action.failRead ⟨(← get).readingLine, .badChannel⟩
      | _, none, .extended =>
        if n = 1 then return connectOutputs .write given
        Action.failAbout given Flaw.badChannel.extendedMessage

/-- Expands the words of redirections. -/
def Connection.ofRedirects (output : Command → Action Bytes) (redirects : List Redirect) :
    Action (List Connection) :=
  return (← redirects.mapM (ofRedirect output)).flatten

namespace Connection

/-- Makes a connection, or fails. -/
def make (output : Command → Action Bytes) (connection : Connection) : Action Unit := do
  let toChannel (n source : Nat) (failure : Action Unit) : Action Unit := do
    match (← get).channels.lookup source with
    | some channel => connect n (some channel)
    | none => failure
  match connection with
  | document n number =>
    let contents := ((← get).documents.lookup number).getD []
    connectText n (← expandText output .document contents)
  | text n bytes => connectText n bytes
  | duplicate n none => connect n none
  | duplicate n (some source) =>
    if source ≠ n then
      toChannel n source
        (Action.failAbout (digitsOf source) Errno.badDescriptor.description)
  | file n opening path =>
    let protects := (← get).switches.protectsFiles && opening = .write
    match opening with
    | .read => connectToRead n path
    | _ => connectToWrite n opening protects path

/-- Makes connections, one after the other, up to the first that cannot be made. -/
def makeAll (output : Command → Action Bytes) (connections : List Connection) : Action Unit :=
  connections.forM (make output)

end Connection

end Intercept.Shell
