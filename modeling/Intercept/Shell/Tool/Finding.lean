import Intercept.Shell.Finder.Reading
import Intercept.Shell.Tool.Batches
import Intercept.Shell.Tool.Editing

/-!
# Finding nodes

The tool that walks through directories and puts a query to each node that is there.
-/

namespace Intercept.Shell.Tool

open Finder

/-- How far the tool has come. -/
structure Hunt where
  status : Nat := 0
  isOver : Bool := false
  /-- Whether what is in the directory that was looked at last is left out. -/
  isPruned : Bool := false
  /-- Programs that are to be started with many paths: their words, where that is, and the paths. -/
  waiting : List (List Bytes × Option Files.Place × List Bytes) := []
  /-- What is written to files. -/
  files : List (Bytes × Bytes) := []

abbrev Hunting := StateT Hunt Action

/-- Tells of something that went wrong. -/
def complainIn (message : Bytes) : Hunting Unit := do
  remark message
  modify fun h => { h with status := 1 }

/-- Writes bytes, to a file where one is given. -/
def writeFound (file : Option Bytes) (bytes : Bytes) : Hunting Unit := do
  match file with
  | none => if !(← emit bytes) then modify fun h => { h with status := 1 }
  | some path =>
    modify fun h => { h with files := h.files.map fun (own, text) =>
      if own = path then (own, text ++ bytes) else (own, text) }

/-- What a letter stands for in a format for nodes that are found. -/
def foundFact? (p : Process) (found : Found) (letter : Char) : Option Fact :=
  let text (bytes : Bytes) : Option Fact := some (.text bytes)
  let time := found.listed.attributes.time
  let written : Option Fact :=
    text (Bytes.ofString (dateText time 100 "%a %b %e %H:%M:%S.%N0 %Y".toList))
  match letter with
  | 'p' => text found.path
  | 'f' => text found.nameShown
  | 'h' => text found.parent
  | 'P' => text found.below
  | 'H' => text found.start
  | 'd' => some (.number 'u' found.depth)
  | 's' => some (.number 'u' found.listed.size)
  | 'm' => some (.number 'o' found.listed.attributes.mode)
  | 'M' => text (Bytes.ofString found.listed.modeLetters)
  | 'y' => text [found.kindIn p false]
  | 'Y' =>
    match p.tree.node? p.directory found.path with
    | some (_, node) => text [Found.kindLetter node]
    | none => text [0x4E]
  | 'l' =>
    match found.listed.node with
    | .link target => text target
    | _ => text []
  | 'n' => some (.number 'u' (found.listed.holders p.tree))
  | 'i' => some (.number 'u' found.listed.attributes.number)
  | 'u' | 'g' => text (Bytes.ofString "root")
  | 'U' | 'G' => some (.number 'u' 0)
  | 'b' => some (.number 'u' found.listed.units)
  | 'k' => some (.number 'u' (found.listed.units / 2))
  | 't' | 'a' | 'c' => written
  | _ => none

/-- What a letter behind one for times stands for. -/
def foundTime (found : Found) (letter : Char) : Fact :=
  let time := found.listed.attributes.time
  let format := match letter with
    | '@' => "%s.%N0"
    | '+' => "%Y-%m-%d+%H:%M:%S.%N0"
    | 'S' => "%S.%N0"
    | 'T' | 'X' => "%H:%M:%S.%N0"
    | letter => String.ofList ['%', letter]
  .text (Bytes.ofString (dateText time 100 format.toList))

/-- What a format gives for a node that is found. The first argument bounds the number of pieces. -/
def foundText (p : Process) (found : Found) : Nat → Bytes → Bytes × List Bytes
  | 0, _ => ([], [])
  | _ + 1, [] => ([], [])
  | fuel + 1, b :: rest =>
    let behind (own : Bytes) (rest : Bytes) : Bytes × List Bytes :=
      let (after, warnings) := foundText p found fuel rest
      (own ++ after, warnings)
    if b = 0x25 then
      let (directive, after) := factDirective rest
      match after with
      | [] => ([], [])
      | letter :: after =>
        let c := Bytes.asChar letter
        if letter = 0x25 then behind [0x25] after
        else if c = 'T' || c = 'A' || c = 'C' then
          match after with
          | kind :: after =>
            behind ((foundTime found (Bytes.asChar kind)).shown directive) after
          | [] => behind [0x25, letter] []
        else
          match foundFact? p found c with
          | some fact => behind (fact.shown directive) after
          | none =>
            let own := 0x25 :: rest.take (rest.length - after.length)
            let (text, warnings) := behind own after
            (text, inQuotes "warning: unrecognized format directive " [0x25, letter] :: warnings)
    else if b = 0x5C then
      match rest with
      | [] => ([0x5C], [])
      | letter :: after =>
        if letter = 0x63 then ([], [])
        else
          match Format.simpleEscape? letter with
          | some own => behind [own] after
          | none =>
            if 0x30 ≤ letter && letter ≤ 0x37 then
              match Format.octal rest with
              | (.text own, after) => behind own after
              | _ => ([], [])
            else
              let (text, warnings) := behind [0x5C, letter] after
              (text, inQuotes "warning: unrecognized escape " [0x5C, letter] :: warnings)
    else behind [b] rest

/-- The line in which all that is known of a node is shown. -/
def foundLine (p : Process) (found : Found) : Bytes :=
  let aligned (width : Nat) (n : Nat) : String := DatePart.filled ' ' width (toString n)
  let listed := found.listed
  let target : Bytes := match listed.node with
    | .link target => Bytes.ofString " -> " ++ target
    | _ => []
  Bytes.ofString (s!"{aligned 9 listed.attributes.number} {aligned 6 (listed.units / 2)} " ++
    s!"{listed.modeLetters} {aligned 3 (listed.holders p.tree)} root     root     " ++
    s!"{aligned 8 listed.size} {Listed.timeText p.system.now listed.attributes.time} ") ++
    found.path ++ target ++ [Bytes.newline]

/-- Starts a program in a directory, and tells whether it has ended well. -/
def startFound (launcher : Launcher) (place : Option Files.Place) (words : List Bytes) :
    Hunting Bool := do
  let before ← getThe Process
  let inPlace (p : Process) : Process := match place with
    | some directory => { p with directory }
    | none => p
  set (inPlace before)
  let outcome ← launcher.start words
  modifyThe Process fun p => { p with directory := before.directory }
  match outcome with
  | .ok status => return status = .exited 0
  | .error errno =>
    remark (quotedText (words.headD []) ++ Bytes.ofString s!": {errno.description}")
    return false

/-- Starts the programs that wait in a directory, or those that wait for the end. -/
def startWaiting (launcher : Launcher) (place : Option Files.Place) : Hunting Unit := do
  let h ← getThe Hunt
  set { h with waiting := h.waiting.filter fun (_, own, _) => own ≠ place }
  for (words, own, paths) in h.waiting do
    if own = place && !paths.isEmpty then
      if !(← startFound launcher own (words ++ paths)) then
        modify fun h => { h with status := 1 }

/-- Whether the next line that can be read agrees. -/
def isAgreed : Hunting Bool := do
  let p ← getThe Process
  let input := p.input 0
  let line := input.takeWhile (· ≠ Bytes.newline)
  set (p.consume 0 (min input.length (line.length + 1)))
  return line.head?.any fun b => b = 0x79 || b = 0x59

/-- Does something with a node, and tells whether the query goes on to hold. -/
def doDeed (launcher : Launcher) (found : Found) (file : Option Bytes) : Deed → Hunting Bool
  | .show ending => do
    writeFound file (found.path ++ [ending])
    return true
  | .format text => do
    let (own, warnings) := foundText (← getThe Process) found (text.length + 1) text
    for warning in warnings do remark warning
    writeFound file own
    return true
  | .list => do
    writeFound file (foundLine (← getThe Process) found)
    return true
  | .start words enters asks => do
    let path := if enters then Files.here ++ Bytes.slash :: found.name else found.path
    if asks then
      let _ ← Action.write 2 (Bytes.ofString "< " ++ words.headD [] ++ Bytes.ofString " ... " ++
        found.path ++ Bytes.ofString " > ? ")
      if !(← isAgreed) then return false
    let filled := words.map fun word =>
      replaceAll (Bytes.ofString "\x7b\x7d") path (word.length + 1) word
    startFound launcher (if enters then some found.listed.place.dropLast else none) filled
  | .startAll words enters => do
    let path := if enters then Files.here ++ Bytes.slash :: found.name else found.path
    let place := if enters then some found.listed.place.dropLast else none
    let h ← getThe Hunt
    let isOwn (one : List Bytes × Option Files.Place × List Bytes) : Bool :=
      one.1 = words && one.2.1 = place
    let withPath (one : List Bytes × Option Files.Place × List Bytes) :
        List Bytes × Option Files.Place × List Bytes :=
      match isOwn one with
      | true => (words, place, one.2.2 ++ [path])
      | false => one
    if h.waiting.any isOwn then set { h with waiting := h.waiting.map withPath }
    else set { h with waiting := h.waiting ++ [(words, place, [path])] }
    return true
  | .delete => do
    let p ← getThe Process
    let refuse (errno : Errno) : Hunting Bool := do
      complainIn (Bytes.ofString "cannot delete " ++ quotedText found.path ++
        Bytes.ofString s!": {errno.description}")
      return false
    if found.path = Files.here then return true
    match p.tree.get? found.listed.place with
    | none => refuse .noSuchFile
    | some .directory =>
      if (p.tree.namesIn found.listed.place).isEmpty then
        set (p.setTree (p.tree.erase found.listed.place))
        return true
      else refuse .notEmpty
    | some _ =>
      set (p.setTree (p.tree.erase found.listed.place))
      return true
  | .prune => do
    modify fun h => { h with isPruned := true }
    return true
  | .quit => do
    modify fun h => { h with isOver := true }
    return true

/-- Puts a query to a node, and tells whether it holds. -/
def putQuery (launcher : Launcher) (found : Found) : Query → Hunting Bool
  | .criterion criterion => return criterion.holds (← getThe Process) found
  | .deed deed file => do
    if (← getThe Hunt).isOver then return false
    doDeed launcher found file deed
  | .negation query => return !(← putQuery launcher found query)
  | .both first second => do
    if ← putQuery launcher found first then putQuery launcher found second else return false
  | .either first second => do
    if ← putQuery launcher found first then return true else putQuery launcher found second
  | .behind first second => do
    let _ ← putQuery launcher found first
    putQuery launcher found second

/-- Visits a node and all that is below it. The first argument bounds the depth. -/
def visit (launcher : Launcher) (walk : Walk) (query : Query) : Nat → Found → Hunting Unit
  | 0, _ => return
  | depth + 1, found => do
    let ask : Hunting Unit := do
      if walk.least ≤ found.depth && !(← getThe Hunt).isOver then
        let _ ← putQuery launcher found query
    modify fun h => { h with isPruned := false }
    if !walk.insideFirst then ask
    let h ← getThe Hunt
    let isDeep := walk.deepest.any (· ≤ found.depth)
    if found.listed.node = .directory && !h.isPruned && !h.isOver && !isDeep then
      let p ← getThe Process
      if p.tree.get? found.listed.place = some .directory then
        for name in p.tree.namesIn found.listed.place do
          let p ← getThe Process
          if (p.tree.get? (found.listed.place ++ [name])).isSome then
            visit launcher walk query depth (found.inside walk p name)
        startWaiting launcher (some found.listed.place)
      else
        complainIn (quotedText found.path ++
          Bytes.ofString s!": {Errno.noSuchFile.description}")
    if walk.insideFirst then ask

/-- Visits what is at each of some paths. -/
def visitAll (launcher : Launcher) (walk : Walk) (query : Query) (paths : List Bytes) :
    Hunting Unit := do
  for path in paths do
    if (← getThe Hunt).isOver then return
    let p ← getThe Process
    let own := nodeAt p.tree p.directory path
    let reached : Except Cause (Files.Place × Files.Node) :=
      match p.tree.node? p.directory path with
      | some followed => if walk.followsOperands then .ok followed else own
      | none => own
    match reached with
    | .ok (place, node) =>
      let listed := Listed.of p.tree path place node
      visit launcher walk query 200 { path, start := path, depth := 0, listed }
      startWaiting launcher (some place.dropLast)
    | .error cause => complainIn (quotedText path ++ Bytes.ofString s!": {reason cause}")
  startWaiting launcher none

/-- Reads the options in front of the paths. -/
def walkOptions (walk : Walk) : List Bytes → Except String (Walk × List Bytes)
  | [] => .ok (walk, [])
  | [0x2D, 0x44] :: [] => .error "Missing argument after the -D option."
  | [0x2D, 0x44] :: _ :: rest => walkOptions walk rest
  | word :: rest =>
    match word with
    | [0x2D, 0x2D] => .ok (walk, rest)
    | [0x2D, 0x4C] => walkOptions { walk with follows := true, followsOperands := true } rest
    | [0x2D, 0x48] => walkOptions { walk with follows := false, followsOperands := true } rest
    | [0x2D, 0x50] => walkOptions { walk with follows := false, followsOperands := false } rest
    | [0x2D, 0x4F, _] => walkOptions walk rest
    | _ => .ok (walk, word :: rest)

/-- Walks through directories, and puts a query to each node. -/
def find (launcher : Launcher) (words : List Bytes) : Action WaitStatus := do
  match walkOptions {} words with
  | .error message =>
    refuseUse (Bytes.ofString message)
    return .ofCode 1
  | .ok (walk, words) =>
    let paths := words.takeWhile fun word => !isQueryWord true word
    let asked := words.drop paths.length
    let p ← get
    let read : Reading (Walk × Query) := do
      let draft ← QueryDraft.takeAll p (asked.length + 1) { walk } asked
      return (draft.walk, ← queryOf draft.parts)
    match read with
    | .error messages =>
      for message in messages do remark message
      return .ofCode 1
    | .ok (walk, query) =>
      let files := query.files.eraseDups.map fun path => (path, ([] : Bytes))
      let operands := if paths.isEmpty then [Files.here] else paths
      let (_, hunt) ← (visitAll launcher walk query operands).run { files }
      writeEdited (hunt.files.map fun (path, text) => (path, { text }))
      return .ofCode hunt.status

end Intercept.Shell.Tool
