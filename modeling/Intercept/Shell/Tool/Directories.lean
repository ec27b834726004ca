import Intercept.Shell.Tool.Rights

/-!
# Making and removing directories
-/

namespace Intercept.Shell.Tool

/-- Removes an empty directory, and those on the way to it where that is asked for. -/
def removeDirectory (use : Use) (what : String) (tree : Files.Tree) (directory : Files.Place)
    (path : Bytes) : Except Bytes (Files.Tree × Bytes) :=
  let refusal (why : String) : Except Bytes (Files.Tree × Bytes) := .error (cannot what path why)
  match nodeAt tree directory path with
  | .error cause => refusal (reason cause)
  | .ok (place, .directory) =>
    if (tree.namesIn place).isEmpty then
      .ok (tree.erase place, doneText use "rmdir: removing directory," path)
    else refusal Errno.notEmpty.description
  | .ok _ => refusal Errno.notDirectory.description

/-- Removes empty directories. -/
def rmdir (use : Use) : Action Nat :=
  let paths (path : Bytes) : List Bytes :=
    if use.has 'p' then (Files.stages path).reverse.drop 1 else []
  changeInTurn use.operands "missing operand" fun tree directory path =>
    (paths path).foldl (fun change path =>
      change.andThen fun tree =>
        removeDirectory use "failed to remove directory" tree directory path)
      (.ofExcept tree (removeDirectory use "failed to remove" tree directory path))

/-- Makes a directory of some mode, and those on the way to it, of the usual one, where that is
asked for. -/
def makeDirectory (use : Use) (mode usual : Nat) (tree : Files.Tree) (directory : Files.Place)
    (path : Bytes) : Change :=
  let refusal (path : Bytes) (why : String) : Except Bytes (Files.Tree × Bytes) :=
    .error (cannot "cannot create directory" path why)
  let make (tree : Files.Tree) (mode : Nat) (path : Bytes) : Except Bytes (Files.Tree × Bytes) :=
    match tree.find directory path with
    | .ok (.free place) =>
      .ok (tree.create place .directory mode, doneText use "mkdir: created directory" path)
    | .ok (.node _ .directory) =>
      if use.has 'p' then .ok (tree, []) else refusal path Errno.fileExists.description
    | .ok (.node ..) => refusal path Errno.fileExists.description
    | .error cause => refusal path (reason cause)
  if use.has 'p' && !path.isEmpty then
    let stages := Files.stages path
    stages.zipIdx.foldl (fun change (stage, index) =>
      change.andThen fun tree =>
        let isLast := index + 1 = stages.length
        match make tree (if isLast then mode else usual) stage with
        | .ok made => .ok made
        | .error message =>
          let isFile := match tree.find directory stage with
            | .ok (.node ..) => true
            | _ => false
          if !isLast && isFile then refusal stage Errno.notDirectory.description
          else .error message) { tree }
  else .ofExcept tree (make tree mode path)

/-- Makes directories, with the rights of a mode where one is given. -/
def mkdir (use : Use) : Action Nat := do
  let p ← get
  let usual := p.rights 0o777
  let mode := (use.argument? 'm').getD (Bytes.ofString "u+")
  match RightsChange.readAll? mode with
  | none =>
    remark (Bytes.ofString "invalid mode " ++ quotedText mode)
    return 1
  | some changes =>
    let own := if use.has 'm' then RightsChange.applyAll true p.mask 0o777 changes else usual
    changeInTurn use.operands "missing operand" (makeDirectory use own usual)

def mkdirOptions : Use.Known :=
  { letters := "pvm:", names := [("parents", 'p'), ("verbose", 'v'), ("mode", 'm')] }

end Intercept.Shell.Tool
