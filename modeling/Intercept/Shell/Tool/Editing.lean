import Intercept.Shell.Editor.Reading
import Intercept.Shell.Editor.Run
import Intercept.Shell.Tool.Parts

/-!
# The line editor

The tool that carries out a script for each line of files, and passes the lines on or puts them into
the place of the files.
-/

namespace Intercept.Shell.Tool

/-- How the tool is used. The options are not gone through. -/
def editorUse : String :=
  "Usage: sed [OPTION]... \x7bscript-only-if-no-other-script\x7d [input-file]...\n\n"

/-- A part of a script, and what it is called in messages. -/
structure ScriptPart where
  text : Bytes
  label : Bytes
  deriving Repr

/-- The parts of the script that options give, or the file that cannot be read. -/
def scriptParts (use : Use) : Action (Except (Bytes × Cause) (List ScriptPart)) := do
  let mut parts : List ScriptPart := []
  let mut expressions := 0
  for (letter, argument) in use.options do
    if letter = 'e' then
      expressions := expressions + 1
      let label := Bytes.ofString s!"-e expression #{expressions}"
      match parts.reverse with
      | before :: others =>
        if before.text.getLast? = some 0x5C then
          let joined := { before with text := before.text ++ Bytes.newline :: argument }
          parts := (joined :: others).reverse
        else parts := parts ++ [{ text := argument, label }]
      | [] => parts := [{ text := argument, label }]
    if letter = 'f' then
      match contentsOfName (← get) argument with
      | .error cause => return .error (argument, cause)
      | .ok text =>
        takeFrom argument text.length
        parts := parts ++ [{ text, label := Bytes.ofString "file " ++ argument }]
  return .ok parts

/-- The script of all parts, or a message and the status of the tool. -/
def scriptOf (extended : Bool) (parts : List ScriptPart) :
    Except (Bytes × Nat) Editor.Script := do
  let isQuietPart (part : ScriptPart) : Bool :=
    (Bytes.ofString "#n").isPrefixOf part.text
  let start : Editor.Draft := { isQuiet := parts.head?.any isQuietPart }
  let draft ← parts.foldlM (fun (draft : Editor.Draft) part => do
    let read := Editor.Draft.readAll extended (part.text.length + 1) draft
    let (result, rest) := (ExceptT.run read).run part.text
    let isFile := (Bytes.ofString "file ").isPrefixOf part.label
    let place := part.text.length - rest.length
    match result with
    | .ok draft => return draft
    | .error message =>
      let place := if isFile then
          s!" line {(part.text.take place).count Bytes.newline + 1}: {message}"
        else s!", char {place}: {message}"
      throw (part.label ++ Bytes.ofString place, 1)) start
  if !draft.blocks.isEmpty then
    let label := (parts.head?.map (·.label)).getD []
    throw (label ++ Bytes.ofString ", char 0: unmatched \x60\x7b'", 1)
  (draft.finish).mapError fun label =>
    (Bytes.ofString "can't find label for jump to \x60" ++ label ++ [0x27], 4)

/-- The lines of files. The last line of all is marked, or that of each file. -/
def editorLines (ending : UInt8) (separate : Bool) (texts : List (Bytes × Bytes)) :
    List Editor.InputLine :=
  let own (file : Bytes × Bytes) : List Editor.InputLine :=
    let (name, text) := file
    let lines := (linesOf text ending).map fun line =>
      let isEnded := line.getLast? = some ending
      { bytes := if isEnded then line.dropLast else line, isEnded, file := name : Editor.InputLine }
    if separate then markFirst (markLast lines) else lines
  if separate then texts.flatMap own else markLast (texts.flatMap own)
where
  markFirst : List Editor.InputLine → List Editor.InputLine
    | first :: others => { first with isFirst := true } :: others
    | [] => []
  markLast (lines : List Editor.InputLine) : List Editor.InputLine :=
    match lines.reverse with
    | last :: others => ({ last with isLast := true } :: others).reverse
    | [] => []

/-- Writes what a script has written to files. -/
def writeEdited (files : List (Bytes × Editor.Written)) : Action Unit := do
  for (path, written) in files do
    let p ← get
    match p.tree.findToWrite p.directory path, p.tree.overwrite p.directory path written.text with
    | .ok (.node _ (.stream channel)), _ =>
      let _ ← Action.writeTo channel written.text
    | _, .ok tree => set (p.setTree tree)
    | _, .error cause => explain "couldn't open file " path (reason cause)

/-- The paths that a script writes to. -/
def writtenPaths (script : Editor.Script) : List Bytes :=
  (script.instructions.toList.filterMap fun one =>
    match one.work with
    | .write path => some path
    | .writeLine path => some path
    | .substitute s => s.path
    | _ => none).filter (· ≠ Editor.State.outputPath)

/-- How a script is carried out according to options. -/
def editorSetting (use : Use) (p : Process) (script : Editor.Script) : Editor.Setting :=
  { instructions := script.instructions
    isQuiet := use.has 'n' || script.isQuiet
    lineEnd := use.lineEnd
    read? := fun path =>
      if path = Bytes.ofString "/dev/stdin" then (p.input? 0).toOption
      else (p.read path).toOption }

/-- Says that a script cannot go on. -/
def tellFailure (message : String) : Action Nat := do
  remark (Bytes.ofString s!"-e expression #1, char 0: {message}")
  return 1

/-- A file that is edited: its text, or why it has none. -/
structure EditorInput where
  name : Bytes
  text : Except Bytes Bytes
  /-- The status with which the tool ends because of a file without a text, and whether it reads no
  others then. -/
  status : Nat := 2
  isFinal : Bool := false

/-- The contents of a file that is edited. -/
def editorInput (inPlace : Bool) (p : Process) (name : Bytes) : EditorInput :=
  let isFile := (p.tree.node? p.directory name).any fun (_, node) => node.isFile
  let refuse (front why : String) : Except Bytes Bytes :=
    .error (Bytes.ofString front ++ name ++ Bytes.ofString s!": {why}")
  match contentsOfName p name with
  | .ok text =>
    if inPlace && !isFile then
      { name, text := refuse "couldn't edit " "not a regular file", status := 4 }
    else { name, text := .ok text }
  | .error cause =>
    if !isOpened name cause then { name, text := refuse "can't read " (reason cause) }
    else if inPlace then { name, text := refuse "couldn't edit " "not a regular file", status := 4 }
    else { name, text := refuse "read error on " (reason cause), status := 4, isFinal := true }

/-- Reads the files that are edited. -/
def editorInputs (inPlace : Bool) : List Bytes → Action (List EditorInput)
  | [] => return []
  | name :: names => do
    let input := editorInput inPlace (← get) name
    if let .ok text := input.text then takeFrom name text.length
    return input :: (← editorInputs inPlace names)

/-- The files without a text that are come to when some lines have been read, and perhaps those
behind these lines too. -/
def comeTo (ending : UInt8) (read : Nat) (looksAhead : Bool) :
    List EditorInput → List EditorInput
  | [] => []
  | input :: inputs =>
    if read = 0 && !looksAhead then []
    else
      match input.text with
      | .error _ =>
        let others := comeTo ending read looksAhead inputs
        if read = 0 && input.isFinal then others else input :: others
      | .ok text =>
        let count := (linesOf text ending).length
        if read < count then [] else comeTo ending (read - count) looksAhead inputs

/-- Tells of files without a text, and gives the status that this comes to. -/
def tellUnread (status : Nat) (inputs : List EditorInput) : Action Nat := do
  let mut status := status
  for input in inputs do
    if let .error message := input.text then
      remark message
      status := max status input.status
  return status

/-- Files up to one behind which no others are read. -/
def upToFinal (inputs : List EditorInput) : List EditorInput :=
  let front := inputs.takeWhile (!·.isFinal)
  inputs.take (front.length + 1)

/-- Carries out a script for files as one, and passes the lines on. -/
def editAll (use : Use) (setting : Editor.Setting) (inputs : List EditorInput)
    (start : Editor.State) : Action Nat := do
  let inputs := upToFinal inputs
  let texts := inputs.filterMap fun input => input.text.toOption.map (input.name, ·)
  let lines := editorLines setting.lineEnd (use.has 's') texts
  let (s, outcome) := Editor.runAll setting (2 * lines.length + Editor.commandLimit) true
    { start with rest := lines }
  if !(← emit s.chunks.reverse.flatten) then return 4
  writeEdited s.files
  let read := lines.length - s.rest.length
  let looksAhead := s.looksAhead && !use.has 's'
  match outcome with
  | .error message =>
    let _ ← tellUnread 0 (comeTo setting.lineEnd read looksAhead inputs)
    tellFailure message
  | .ok none => tellUnread 0 inputs
  | .ok (some code) =>
    let status ← tellUnread 0 (comeTo setting.lineEnd read looksAhead inputs)
    return if status = 0 then code else status

/-- Puts what a script makes of files into their place, one after the other. -/
def editInPlace (setting : Editor.Setting) (suffix : Bytes) :
    List EditorInput → Editor.State → Nat → Action Nat
  | [], s, status => do
    writeEdited s.files
    return status
  | input :: others, start, status => do
    match input.text with
    | .error _ => editInPlace setting suffix others start (← tellUnread status [input])
    | .ok text =>
      let name := input.name
      let lines := editorLines setting.lineEnd true [(name, text)]
      let (s, outcome) := Editor.runAll setting (2 * lines.length + Editor.commandLimit) true
        { start with rest := lines, number := 0, chunks := [], isOpen := false }
      let p ← get
      if !suffix.isEmpty then
        let copy := if suffix.contains 0x2A
          then suffix.flatMap fun b => if b = 0x2A then name else [b]
          else name ++ suffix
        if let .ok tree := p.tree.overwrite p.directory copy text then set (p.setTree tree)
      let p ← get
      let whole := s.chunks.reverse.flatten ++ (s.rest.flatMap fun line =>
        line.bytes ++ if line.isEnded then [setting.lineEnd] else [])
      if let .ok tree := p.tree.overwrite p.directory name whole then set (p.setTree tree)
      match outcome with
      | .error message => tellFailure message
      | .ok (some code) =>
        writeEdited s.files
        return if status = 0 then code else status
      | .ok none => editInPlace setting suffix others s status

/-- Edits files with a script, which is the first operand unless options give it. -/
def edit (use : Use) : Action Nat := do
  let given := use.hasAny "ef"
  match ← scriptParts use, use.operands, given with
  | .error (name, cause), _, _ =>
    explain "couldn't open file " name (reason cause)
    return 4
  | .ok _, [], false =>
    let _ ← Action.write 2 (Bytes.ofString editorUse)
    return 1
  | .ok parts, operands, _ =>
    let parts := if given then parts
      else [{ text := operands.headD [], label := Bytes.ofString "-e expression #1" }]
    let names := if given then operands else operands.drop 1
    match scriptOf (use.hasAny "Er") parts with
    | .error (message, status) =>
      remark message
      return status
    | .ok script =>
      let setting := editorSetting use (← get) script
      let inputs ← editorInputs (use.has 'i') (if names.isEmpty then [inputSign] else names)
      let start : Editor.State := { files := (writtenPaths script).map (·, {}) }
      if use.has 'i' then
        editInPlace setting ((use.argument? 'i').getD []) inputs start 0
      else editAll use setting inputs start

/-- The options of the editor. What follows the letter for editing in place in a word is the ending
of the copies that are kept. -/
def editorOptions : Use.Known :=
  { letters := "nEe:f:rsuzl:i:"
    names := [("quiet", 'n'), ("silent", 'n'), ("regexp-extended", 'E'), ("expression", 'e'),
      ("file", 'f'), ("separate", 's'), ("unbuffered", 'u'), ("null-data", 'z'),
      ("line-length", 'l'), ("posix", 'u'), ("sandbox", 'u'), ("debug", 'u')] }

/-- A word in which the option for editing in place has an argument of its own, which may be
empty. -/
def withOwnSuffix (word : Bytes) : List Bytes :=
  match word with
  | 0x2D :: 0x2D :: rest =>
    let name := Bytes.ofString "in-place"
    if rest = name then [Bytes.ofString "-i", []]
    else if (name ++ [Bytes.equalsSign]).isPrefixOf rest then
      [Bytes.ofString "-i", rest.drop (name.length + 1)]
    else [word]
  | 0x2D :: letters =>
    let front := letters.takeWhile fun b => (Bytes.ofString "nErsuz").contains b
    match letters.drop front.length with
    | [0x69] => [0x2D :: letters, []]
    | _ => [word]
  | _ => [word]

/-- The line editor. -/
def sed (words : List Bytes) : Action Nat := do
  let front := words.takeWhile (· ≠ [0x2D, 0x2D])
  match Use.read editorOptions {} [] (front.flatMap withOwnSuffix ++ words.drop front.length) with
  | .ok use => edit use
  | .error message =>
    remark message
    let _ ← Action.write 2 (Bytes.ofString editorUse)
    return 1

end Intercept.Shell.Tool
