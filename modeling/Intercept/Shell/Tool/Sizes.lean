import Intercept.Shell.Tool.Ends
import Intercept.Shell.Tool.Links

/-!
# Files of some size, and files for a while

Tools that cut files or fill them up to a size, and that make files with names of their own.
-/

namespace Intercept.Shell.Tool

/-- The size that a text asks for, given the one that is there: a number, or one behind a sign that
says how it changes the size. -/
def newSize? (text : Bytes) (size : Nat) : Option Nat :=
  let count? := Amount.count?
  match text with
  | 0x2B :: rest => (count? rest).map (size + ·)
  | 0x2D :: rest => (count? rest).map (size - ·)
  | 0x3C :: rest => (count? rest).map (min size)
  | 0x3E :: rest => (count? rest).map (max size)
  | 0x2F :: rest => (count? rest).bind fun n => if n = 0 then none else some (size / n * n)
  | 0x25 :: rest =>
    (count? rest).bind fun n => if n = 0 then none else some ((size + n - 1) / n * n)
  | _ => count? text

/-- Cuts files, or fills them with zeros, up to a size. -/
def truncate (use : Use) : Action Nat := do
  let p ← get
  let isRelative (text : Bytes) : Bool :=
    text.head?.any fun b => (Bytes.ofString "+-<>/%").contains b
  match use.argument? 's', use.argument? 'r' with
  | none, none =>
    refuseUse (Bytes.ofString "you must specify either '--size' or '--reference'")
    return 1
  | some text, none | some text, some _ =>
    if use.has 'r' && !isRelative text then
      refuseUse (Bytes.ofString "you must specify a relative '--size' with '--reference'")
      return 1
    if (newSize? text 0).isNone then
      let shown := if isRelative text then text.drop 1 else text
      remark (Bytes.ofString "Invalid number: " ++ quotedText shown)
      return 1
  | none, some _ => pure ()
  let reference? : Except Cause (Option Nat) := match use.argument? 'r' with
    | none => .ok none
    | some path => (p.tree.read p.directory path).map fun contents => some contents.length
  match reference? with
  | .error cause =>
    explain "cannot stat " (shellQuoted ((use.argument? 'r').getD [])) (reason cause)
    return 1
  | .ok reference =>
    changeEach use.operands "missing file operand" fun tree directory path =>
      if use.has 'c' && (tree.node? directory path).isNone then .ok (tree, [])
      else
        let changed : Except Cause Files.Tree := do
          let found ← tree.findToWrite directory path
          let contents := match found with
            | .node _ (.file contents) => contents
            | _ => []
          let from_ := reference.getD contents.length
          let size := match use.argument? 's' with
            | some text => (newSize? text from_).getD from_
            | none => from_
          let filled := contents.take size ++ List.replicate (size - contents.length) 0
          tree.overwrite directory path filled
        match changed with
        | .ok tree => .ok (tree, [])
        | .error cause =>
          .error (Bytes.ofString "cannot open " ++ shellQuoted path ++
            Bytes.ofString s!" for writing: {reason cause}")

def truncateOptions : Use.Known :=
  { letters := "cor:s:"
    names := [("no-create", 'c'), ("io-blocks", 'o'), ("reference", 'r'), ("size", 's')] }

/-- So many letters and digits that a number is written with them. -/
def nameLetters (n : Nat) : Nat → Bytes
  | 0 => []
  | count + 1 =>
    let letters := Bytes.ofString "abcdefghijklmnopqrstuvwxyzABCDEFGHIJKLMNOPQRSTUVWXYZ0123456789"
    ((letters[n % 62]?).getD 0x61) :: nameLetters (n / 62) count

/-- A template cut in front of the last row of at least three letters that are filled in, and behind
it. -/
def cutTemplate? (template : Bytes) : Option (Bytes × Nat × Bytes) :=
  let reversed := template.reverse
  let behind := reversed.takeWhile (· ≠ 0x58)
  let count := ((reversed.drop behind.length).takeWhile (· = 0x58)).length
  if count < 3 then none
  else some (template.take (template.length - behind.length - count), count, behind.reverse)

/-- Makes a file or a directory whose name is not there yet, and shows its path. -/
def mktemp (use : Use) : Action Nat := do
  let quietly (message : Bytes) : Action Nat := do
    if !use.has 'q' then remark message
    return 1
  if 1 < use.operands.length then
    refuseUse (Bytes.ofString "too many templates")
    return 1
  let p ← get
  let usual := (p.settingOf? "TMPDIR").getD (Bytes.ofString "/tmp")
  let place? := if use.has 'p' then some ((use.argument? 'p').getD usual)
    else if use.has 't' || use.operands.isEmpty then some usual
    else none
  let template := use.operands.headD (Bytes.ofString "tmp.XXXXXXXXXX")
  let ending := (use.argument? 'σ').getD []
  match cutTemplate? template with
  | none =>
    quietly (Bytes.ofString "too few X's in template " ++ shellQuoted template)
  | some (front, count, behind) =>
    let number := 7919 * (p.tree.numbers + p.system.processes + 12345)
    let name := front ++ nameLetters number count ++ behind ++ ending
    let inPlace (name : Bytes) : Bytes := match place? with
      | some place => place ++ Bytes.slash :: name
      | none => name
    let path := inPlace name
    if !use.has 'u' then
      let node : Files.Node := if use.has 'd' then .directory else .file []
      match p.tree.find p.directory path with
      | .ok (.free place) =>
        set (p.setTree (p.tree.create place node (if use.has 'd' then 0o700 else 0o600)))
      | found =>
        let why := match found with
          | .error cause => reason cause
          | .ok _ => Errno.fileExists.description
        let kind := if use.has 'd' then "directory" else "file"
        return ← quietly (Bytes.ofString s!"failed to create {kind} via template " ++
          shellQuoted (inPlace (template ++ ending)) ++ Bytes.ofString s!": {why}")
    emitLine path

def mktempOptions : Use.Known :=
  { letters := "dqtup:σ:"
    names := [("directory", 'd'), ("quiet", 'q'), ("dry-run", 'u'), ("suffix", 'σ'),
      ("tmpdir", 'p')] }

end Intercept.Shell.Tool
