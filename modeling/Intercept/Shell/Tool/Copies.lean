import Intercept.Shell.Condition
import Intercept.Shell.Tool.Places

/-!
# Copies, moves and links

Tools that put something at a path: as a copy, under another name, or by a link. The last operand is
the path, or a directory in which the others get their own names.
-/

namespace Intercept.Shell.Tool

/-- The path that something is put at in a directory, under its own name. -/
def pathWithin (source target : Bytes) : Bytes :=
  let trimmed := (source.reverse.dropWhile (· = Bytes.slash)).reverse
  (if target.getLast? = some Bytes.slash then target else target ++ [Bytes.slash]) ++
    (Files.cutLast trimmed).2

/-- Puts each of some paths at another one, and tells of it behind some words. -/
def placeAll (use : Use) (tell : Bytes → Bytes → Bytes)
    (place : Files.Tree → Files.Place → Bytes → Bytes → Except Bytes Files.Tree)
    (sources : List Bytes) (target : Bytes) (into : Bool) : Action Nat :=
  changeEach sources "missing file operand" fun tree directory source =>
    let own := if into then pathWithin source target else target
    let told := if use.has 'v' then tell source own ++ [Bytes.newline] else []
    (place tree directory source own).map fun after =>
      (after, if after.entries = tree.entries then [] else told)

/-- Puts each of some operands at the last one, or into the directory that an option names. -/
def placeEach (use : Use) (tell : Bytes → Bytes → Bytes)
    (place : Files.Tree → Files.Place → Bytes → Bytes → Except Bytes Files.Tree) :
    Action Nat := do
  let p ← get
  let isDirectory (path : Bytes) : Bool := match p.tree.node? p.directory path with
    | some (_, .directory) => true
    | _ => false
  let refuseTarget (label : String) (target : Bytes) : Action Nat := do
    let why := if (p.tree.node? p.directory target).isSome then Errno.notDirectory
      else Errno.noSuchFile
    remark (Bytes.ofString label ++ shellQuoted target ++ Bytes.ofString s!": {why.description}")
    return 1
  match use.argument? 't', use.operands.reverse with
  | _, [] =>
    refuseUse (Bytes.ofString "missing file operand")
    return 1
  | some target, sources =>
    if isDirectory target then placeAll use tell place sources.reverse target true
    else refuseTarget "target directory " target
  | none, [only] =>
    refuseUse (Bytes.ofString "missing destination file operand after " ++ shellQuoted only)
    return 1
  | none, target :: sources =>
    if use.has 'T' then
      match sources with
      | [source] => placeAll use tell place [source] target false
      | _ =>
        refuseUse (Bytes.ofString "extra operand " ++ shellQuoted target)
        return 1
    else if sources.length > 1 && !isDirectory target then refuseTarget "target " target
    else placeAll use tell place sources.reverse target (isDirectory target)

/-- Two paths with a sign between them. -/
def pairText (front sign : String) (first second : Bytes) : Bytes :=
  Bytes.ofString front ++ shellQuoted first ++ Bytes.ofString sign ++ shellQuoted second

/-- Why something cannot take the place of something else, if it cannot. -/
def refuseOver? (source target : Bytes) (isDirectory : Bool) (there : Files.Node) :
    Option Bytes :=
  match isDirectory, there with
  | true, .directory => none
  | true, _ =>
    some (pairText "cannot overwrite non-directory " " with directory " target source)
  | false, .directory =>
    some (Bytes.ofString "cannot overwrite directory " ++ shellQuoted target ++
      Bytes.ofString " with non-directory")
  | false, _ => none

/-- That two paths lead to one file. -/
def sameText (source target : Bytes) : Bytes :=
  pairText "" " and " source target ++ Bytes.ofString " are the same file"

/-- The entries of a place and below it. -/
def entriesBelow (tree : Files.Tree) (place : Files.Place) : List Files.Entry :=
  tree.entries.filter fun entry => place.isPrefixOf entry.place

/-- Whether a copy keeps the rights and times of what it is of. -/
def keepsAttributes (use : Use) : Bool := use.hasAny "pa"

/-- The tree with a copy of an entry at another place. -/
def copyEntry (use : Use) (mask : Nat) (tree : Files.Tree) (entry : Files.Entry)
    (place : Files.Place) : Files.Tree :=
  let mode := entry.attributes.mode
  let rights := if keepsAttributes use then mode else mode &&& (0o777 ^^^ mask)
  let made :=
    match tree.get? place, entry.node with
    | some .directory, .directory => tree
    | _, node => tree.create place node rights
  if keepsAttributes use then made.setTime place entry.attributes.time else made

/-- Copies a directory with all that is below it. -/
def copyDirectory (use : Use) (mask : Nat) (tree : Files.Tree) (place : Files.Place)
    (source target : Bytes) (found : Files.Found) : Except Bytes Files.Tree :=
  let refusal? := match found with
    | .node _ there => refuseOver? source target true there
    | .free _ => none
  if let some message := refusal? then .error message
  else if place.isPrefixOf found.place then
    .error (pairText "cannot copy a directory, " ", into itself, " source target)
  else
    .ok ((entriesBelow tree place).foldl (fun tree entry =>
      copyEntry use mask tree entry (found.place ++ entry.place.drop place.length)) tree)

/-- Copies a file into the one at a path, which keeps its rights if it is there. -/
def copyFile (use : Use) (mask : Nat) (tree : Files.Tree) (directory : Files.Place)
    (entry : Files.Entry) (source target : Bytes) : Except Bytes Files.Tree :=
  let mode := entry.attributes.mode
  let there := tree.node? directory target
  let refusal? := there.bind fun (found, there) =>
    let isSame := found = entry.place ||
      (tree.attributes? found).any (·.number = entry.attributes.number)
    if isSame then some (sameText source target) else refuseOver? source target false there
  let contents := match entry.node with
    | .file contents => contents
    | _ => []
  match refusal?, tree.overwrite directory target contents (mode &&& (0o777 ^^^ mask)) with
  | some message, _ => .error message
  | none, .ok tree =>
    match tree.node? directory target with
    | none => .ok tree
    | some (place, there) =>
      let made := match there, entry.node with
        | .file _, .tool name => tree.changeAt place fun entry => { entry with node := .tool name }
        | _, _ => tree
      if keepsAttributes use then
        .ok ((made.setMode place mode).setTime place entry.attributes.time)
      else .ok made
  | none, .error (.numbered ⟨21⟩) =>
    .error (cannot "cannot create regular file" target Errno.notDirectory.description)
  | none, .error (.numbered ⟨28⟩) =>
    .error (cannot "error writing" target Errno.noSpace.description)
  | none, .error cause => .error (cannot "cannot create regular file" target (reason cause))

/-- Whether what is at the target is left alone: it is there, and is not to be overwritten, or only
where it is older. -/
def isLeft (use : Use) (tree : Files.Tree) (directory : Files.Place) (source target : Bytes) :
    Bool :=
  let time? (path : Bytes) : Option Files.Moment :=
    (tree.node? directory path).bind fun (place, _) => (tree.attributes? place).map (·.time)
  match time? source, time? target with
  | some own, some there => use.has 'n' || (use.has 'u' && own ≤ there)
  | _, _ => false

/-- The entry of what a path leads to; a link itself where links are not followed. -/
def entryOf (follows : Bool) (tree : Files.Tree) (directory : Files.Place) (path : Bytes) :
    Except Cause Files.Entry := do
  let (place, node) ←
    if follows then
      match ← tree.find directory path with
      | .node place node => .ok (place, node)
      | .free _ => .error (.numbered .noSuchFile)
    else nodeAt tree directory path
  return (tree.entry? place).getD { place, node, attributes := { mode := node.usualMode } }

/-- Copies a link as it is. -/
def copyLink (tree : Files.Tree) (directory : Files.Place) (link source target : Bytes) :
    Except Bytes Files.Tree :=
  match nodeAt tree directory target with
  | .ok (_, .directory) => .error (Bytes.ofString "cannot overwrite directory " ++
      shellQuoted target ++ Bytes.ofString " with non-directory")
  | there =>
    if there.toOption.isSome && (nodeAt tree directory source).toOption = there.toOption then
      .error (sameText source target)
    else
      let cleared := (tree.remove directory target).toOption.getD tree
      (cleared.makeLink directory target link).mapError fun cause =>
        cannot "cannot create symbolic link" target (reason cause)

/-- Copies files, and directories where that is asked for. -/
def cp (use : Use) : Action Nat := do
  let p ← get
  let mask := p.mask
  let follows := use.has 'L' || !use.hasAny "rRadP"
  let status ← placeEach use (pairText "" " -> ") fun tree directory source target =>
    match entryOf follows tree directory source with
    | .error cause => .error (cannot "cannot stat" source (reason cause))
    | .ok found =>
      let entry := { found with node := p.fileOf found.node }
      if isLeft use tree directory source target && entry.node ≠ .directory then .ok tree
      else
        match entry.node with
        | .directory =>
          if !use.hasAny "rRa" then
            .error (Bytes.ofString "-r not specified; omitting directory " ++ shellQuoted source)
          else
            match tree.find directory target with
            | .ok found => copyDirectory use mask tree entry.place source target found
            | .error cause => .error (cannot "cannot create directory" target (reason cause))
        | .link link => copyLink tree directory link source target
        | _ =>
          match tree.find directory target, nodeAt tree directory target with
          | .error (.numbered errno), _ =>
            if errno = .noSuchFile then copyFile use mask tree directory entry source target
            else .error (cannot "cannot stat" target errno.description)
          | .ok (.free _), .ok (_, .link _) =>
            .error (Bytes.ofString "not writing through dangling symlink " ++ shellQuoted target)
          | _, _ => copyFile use mask tree directory entry source target
  for source in use.operands do
    modify (·.consumeAt source ((p.read source).toOption.getD []).length)
  return status

def cpOptions : Use.Known :=
  { letters := "afprRTvundPLt:"
    names := [("archive", 'a'), ("force", 'f'), ("recursive", 'r'), ("no-target-directory", 'T'),
      ("target-directory", 't'), ("verbose", 'v'), ("update", 'u'), ("no-clobber", 'n'),
      ("no-dereference", 'P'), ("dereference", 'L')] }

/-- Moves files and directories. -/
def mv (use : Use) : Action Nat :=
  placeEach use (pairText "renamed " " -> ") fun tree directory source target =>
    let refusal (why : String) : Except Bytes Files.Tree :=
      .error (pairText "cannot move " " to " source target ++ Bytes.ofString s!": {why}")
    let found? : Except Cause Files.Found :=
      match nodeAt tree directory target with
      | .ok (place, node) => .ok (.node place node)
      | .error _ => tree.find directory target
    match nodeAt tree directory source, found? with
    | .error cause, _ => .error (cannot "cannot stat" source (reason cause))
    | .ok _, .error cause => refusal (reason cause)
    | .ok (place, node), .ok found =>
      let isDirectory := node = .directory
      let number (place : Files.Place) : Option Nat := (tree.attributes? place).map (·.number)
      let refusal? := match found with
        | .node _ there => refuseOver? source target isDirectory there
        | .free _ =>
          if !isDirectory && target.getLast? = some Bytes.slash then
            some (pairText "cannot move " " to " source target ++
              Bytes.ofString s!": {Errno.notDirectory.description}")
          else none
      if place = found.place then .error (sameText source target)
      else if let some message := refusal? then .error message
      else if isLeft use tree directory source target then .ok tree
      else if place.isPrefixOf found.place then
        .error (pairText "cannot move " " to a subdirectory of itself, " source target)
      else if !(tree.namesIn found.place).isEmpty then
        .error (cannot "cannot overwrite" target Errno.notEmpty.description)
      else if number place = number found.place then .ok (tree.erase place)
      else
        let moved := (entriesBelow tree place).map fun entry =>
          { entry with place := found.place ++ entry.place.drop place.length }
        .ok (moved.foldl (fun tree entry => tree.put entry) (eraseAll tree place))

def mvOptions : Use.Known :=
  { letters := "fnuvTt:"
    names := [("force", 'f'), ("no-clobber", 'n'), ("update", 'u'), ("verbose", 'v'),
      ("no-target-directory", 'T'), ("target-directory", 't')] }

/-- A path from one place to another. -/
def relativePath (start target : Files.Place) : Bytes :=
  let common := ((start.zip target).takeWhile fun (a, b) => a = b).length
  let steps := List.replicate (start.length - common) Files.above ++ target.drop common
  if steps.isEmpty then Files.here else Bytes.joinWith Bytes.slash steps

/-- The text of a link at a path that leads to another one. -/
def linkText (use : Use) (tree : Files.Tree) (directory : Files.Place) (source target : Bytes) :
    Bytes :=
  if !use.has 'r' then source
  else
    match tree.placeOf directory target, tree.find directory source with
    | .ok own, .ok found => relativePath own.dropLast found.place
    | _, _ => source

/-- Puts a second name for a file at a path. -/
def linkFile (tree : Files.Tree) (directory : Files.Place) (follows : Bool)
    (source target : Bytes) : Except Bytes Files.Tree :=
  let what := "failed to create hard link"
  match entryOf follows tree directory source, tree.find directory target with
  | .error cause, _ => .error (cannot "failed to access" source (reason cause))
  | .ok entry, found =>
    if entry.node = .directory then
      .error (nameText source ++ Bytes.ofString ": hard link not allowed for directory")
    else
      match found with
      | .ok (.free place) => .ok (tree.put { entry with place })
      | .ok (.node ..) => .error (cannot what target Errno.fileExists.description)
      | .error cause =>
        .error (pairText (what ++ " ") " => " target source ++ Bytes.ofString s!": {reason cause}")

/-- Makes links, or second names where no link is asked for. -/
def ln (use : Use) : Action Nat := do
  let use := match use.operands, use.has 't' with
    | [only], false => { use with operands := [only, Files.here] }
    | _, _ => use
  let p ← get
  let isLinkTarget := use.has 'n' && use.operands.length = 2 &&
    match use.operands.getLast?.map (nodeAt p.tree p.directory) with
    | some (.ok (_, .link _)) => true
    | _ => false
  let use := if isLinkTarget then { use with options := use.options ++ [('T', [])] } else use
  let sign := if use.has 's' then " -> " else " => "
  placeEach use (fun source own => pairText "" sign own source) fun tree directory source target =>
    let isSame := match nodeAt tree directory source, nodeAt tree directory target with
      | .ok (place, _), .ok (other, _) => place = other
      | _, _ => false
    if use.has 'f' && isSame then .error (sameText source target)
    else
      let cleared := if use.has 'f' then (tree.remove directory target).toOption.getD tree else tree
      if use.has 's' then
        let what := "failed to create symbolic link"
        (cleared.makeLink directory target (linkText use cleared directory source target)).mapError
          fun cause =>
            if source.isEmpty then
              pairText (what ++ " ") " -> " target source ++ Bytes.ofString s!": {reason cause}"
            else cannot what target (reason cause)
      else linkFile cleared directory (use.has 'L') source target

def lnOptions : Use.Known :=
  { letters := "sfnvTrLPt:"
    names := [("symbolic", 's'), ("force", 'f'), ("no-dereference", 'n'), ("verbose", 'v'),
      ("no-target-directory", 'T'), ("relative", 'r'), ("target-directory", 't'),
      ("logical", 'L'), ("physical", 'P')] }

end Intercept.Shell.Tool
