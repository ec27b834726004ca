import Intercept.Shell.Regular.Match
import Intercept.Shell.Regular.Reading
import Intercept.Shell.Tool.Parts
import Intercept.Shell.Tool.Rights
import Intercept.Shell.Tool.Texts

/-!
# Searching lines

The tool that passes on the lines in which a pattern is found, or tells of them.
-/

namespace Intercept.Shell.Tool

/-- How patterns are read. -/
inductive SearchManner where
  | basic
  | extended
  | text
  deriving DecidableEq, Repr

/-- What is asked for. -/
structure Search where
  patterns : List Regular
  ignoresCase : Bool
  inverted : Bool
  /-- Whether a match is to be a whole word, or a whole line. -/
  wholeWords : Bool
  wholeLines : Bool
  onlyMatches : Bool
  /-- How many lines are passed on at most. -/
  most : Option Nat
  /-- How many lines are passed on before and behind one that matches. -/
  before : Nat
  behind : Nat
  lineEnd : UInt8

namespace Search

/-- The longest match that begins at a place and is one of those that are asked for. -/
def matchAt? (s : Search) (subject : Subject) (start : Nat) : Option Nat :=
  let ends := s.patterns.flatMap fun pattern =>
    (subject.reach pattern { place := start }).map (·.place)
  let admitted := ends.filter fun stop =>
    (!s.wholeLines || (start = 0 && stop = subject.text.size)) &&
      (!s.wholeWords || ((start = 0 || !subject.isWordAt (start - 1)) && !subject.isWordAt stop))
  admitted.foldl (fun best stop => some (max stop (best.getD 0))) none

/-- The first match from a place on. The first argument is how many places there are. -/
def find? (s : Search) (subject : Subject) : Nat → Nat → Option (Nat × Nat)
  | 0, _ => none
  | count + 1, start =>
    match s.matchAt? subject start with
    | some stop => some (start, stop)
    | none => s.find? subject count (start + 1)

/-- All matches that are not empty, each behind the one before it. -/
def findAll (s : Search) (subject : Subject) : Nat → Nat → List (Nat × Nat)
  | 0, _ => []
  | fuel + 1, start =>
    match s.find? subject (subject.text.size + 1 - start) start with
    | none => []
    | some (first, stop) =>
      if stop = first then s.findAll subject fuel (first + 1)
      else (first, stop) :: s.findAll subject fuel stop

def subjectOf (s : Search) (line : Bytes) : Subject :=
  .ofBytes line s.ignoresCase

/-- Whether a line is one that is asked for. -/
def selects (s : Search) (line : Bytes) : Bool :=
  let subject := s.subjectOf line
  (s.find? subject (subject.text.size + 1) 0).isSome != s.inverted

end Search

/-- A line with its number, the number of bytes before it, and whether it is one that is asked
for. -/
structure FoundLine where
  line : Bytes
  number : Nat
  offset : Nat
  isFound : Bool

/-- The lines of a text with what is known of them, no more of them found than are asked for. -/
def foundLines (s : Search) (text : Bytes) : List FoundLine :=
  let step (state : List FoundLine × Nat × Nat × Nat) (line : Bytes) :=
    let (all, number, offset, count) := state
    let isFound := s.most.all (count < ·) && s.selects line
    ({ line, number, offset, isFound } :: all, number + 1, offset + line.length + 1,
      if isFound then count + 1 else count)
  ((barelines text s.lineEnd).foldl step ([], 1, 0, 0)).1.reverse

/-- What is shown of a file: lines with what stands before them. -/
structure SearchView where
  /-- The name in front of each line. -/
  name : Option Bytes
  numbers : Bool
  offsets : Bool
  /-- Whether a line with minus signs stands between groups of lines. -/
  separates : Bool

/-- What stands in front of a line, with a sign behind each part. -/
def SearchView.front (view : SearchView) (sign : UInt8) (found : FoundLine) (start : Nat) : Bytes :=
  let part (text : Bytes) : Bytes := text ++ [sign]
  (view.name.elim [] part) ++ (if view.numbers then part (digitsOf found.number) else []) ++
    if view.offsets then part (digitsOf (found.offset + start)) else []

/-- The lines that are shown, each with whether it is only near one that is asked for. -/
def shownLines (s : Search) (lines : List FoundLine) : List (FoundLine × Bool) :=
  let hits := (lines.filter (·.isFound)).map (·.number)
  let isNear (n : Nat) : Bool := hits.any fun hit => n ≤ hit + s.behind && hit ≤ n + s.before
  let last := hits.getLast?.getD 0
  let isPast (n : Nat) : Bool := s.most.any fun most => hits.length = most && last + s.behind < n
  (lines.filter fun found => isNear found.number && !isPast found.number).map fun found =>
    (found, !found.isFound)

/-- The text of the lines of a file that are shown. -/
def SearchView.text (view : SearchView) (s : Search) (lines : List FoundLine) : Bytes :=
  if s.onlyMatches then
    (lines.filter (·.isFound)).flatMap fun found =>
      if s.inverted then []
      else
        let subject := s.subjectOf found.line
        (s.findAll subject (subject.text.size + 1) 0).flatMap fun (start, stop) =>
          view.front 0x3A found start ++ subject.slice start stop ++ [s.lineEnd]
  else
    (shownLines s lines).foldl (fun (text, last) (found, isContext) =>
      let gap := view.separates && !text.isEmpty && last + 1 < found.number
      let own := view.front (if isContext then 0x2D else 0x3A) found 0 ++ found.line ++ [s.lineEnd]
      (text ++ (if gap then Bytes.ofString "--\n" else []) ++ own, found.number))
      (([], 0) : Bytes × Nat) |>.1

/-- The files below a path, where directories are searched too. -/
def filesBelow (p : Process) (use : Use) (path : Bytes) : List Bytes :=
  let admits (path : Bytes) : Bool :=
    let name := (Files.cutLast path).2
    let isLike (pattern : Bytes) : Bool :=
      (Pattern.ofMarks (pattern.map fun b => { byte := b, quoted := false })).matches name
    let ofLetter (letter : Char) : List Bytes := (use.options.filter (·.1 = letter)).map (·.2)
    ((ofLetter 'ι').isEmpty || (ofLetter 'ι').any isLike) && !(ofLetter 'ξ').any isLike
  match p.tree.node? p.directory path with
  | some (place, .directory) =>
    ((pathsBelow p.tree 100 path place).filter fun (path, place) =>
      (p.tree.get? place).any Files.Node.isFile && admits path).map (·.1)
  | _ => if admits path then [path] else []

/-- The patterns in a text, a line each. -/
def patternsOf (manner : SearchManner) (text : Bytes) : Except RegularFlaw (List Regular) :=
  (Bytes.splitAt Bytes.newline text).mapM fun line =>
    match manner with
    | .text => .ok (Regular.ofText line)
    | .basic => Regular.read {} line
    | .extended => Regular.read { extended := true } line

/-- How patterns are read according to options; none if these contradict each other. -/
def searchManner? (usual : SearchManner) (use : Use) : Option SearchManner :=
  match ['G', 'E', 'F', 'P'].filter use.has with
  | [] => some usual
  | ['G'] => some .basic
  | ['E'] => some .extended
  | ['F'] => some .text
  | ['P'] => some .extended
  | _ => none

/-- A number that an option gives, or the message that it is none. -/
def contextOption (use : Use) (letter : Char) (usual : Nat) : Except Bytes Nat :=
  match use.argument? letter with
  | none => .ok usual
  | some word =>
    match number? word with
    | some n => .ok n
    | none => .error (word ++ Bytes.ofString ": invalid context length argument")

/-- What options ask to be searched for. A failure is a message. -/
def searchOf (manner : SearchManner) (use : Use) (texts : List Bytes) : Except Bytes Search := do
  let patterns ← (texts.mapM (patternsOf manner)).mapError fun flaw =>
    Bytes.ofString flaw.message
  let around ← contextOption use 'C' 0
  let most ← match use.argument? 'm' with
    | none => pure none
    | some word =>
      match integer? word with
      | some n => pure (if n < 0 then none else some n.toNat)
      | none => throw (Bytes.ofString "invalid max count")
  return { patterns := patterns.flatten
           ignoresCase := use.hasAny "iy"
           inverted := use.has 'v'
           wholeWords := use.has 'w'
           wholeLines := use.has 'x'
           onlyMatches := use.has 'o'
           most
           before := ← contextOption use 'B' around
           behind := ← contextOption use 'A' around
           lineEnd := use.lineEnd }

/-- Says how the tool is used. -/
def tellSearchUse : Action Unit := do
  let name := (← get).name
  Action.tell (Bytes.ofString "Usage: " ++ name ++ Bytes.ofString " [OPTION]... PATTERNS [FILE]...")
  tellHelp

/-- The texts of the patterns that options name, or the file of patterns that cannot be read. -/
def patternTexts (use : Use) : Action (Except (Bytes × Cause) (List Bytes)) := do
  let mut texts : List Bytes := []
  for (letter, argument) in use.options do
    if letter = 'e' then texts := texts ++ [argument]
    if letter = 'f' then
      match contentsOfName (← get) argument with
      | .error cause => return .error (argument, cause)
      | .ok text =>
        takeFrom argument text.length
        texts := texts ++ barelines text Bytes.newline
  return .ok texts

/-- Searches a file. Tells whether something was found, and whether that was possible. -/
def searchFile (use : Use) (s : Search) (titled : Bool) (name : Bytes) :
    Action (Bool × Bool) := do
  let shownName := if name = inputSign then Bytes.ofString "(standard input)" else name
  let lists := use.hasAny "lLq"
  if !lists && isOutput (← get) name (name ≠ inputSign) then
    explain "" shownName "input file is also the output"
    return (false, false)
  match contentsOfName (← get) name with
  | .error cause =>
    if !use.has 's' then explain "" name (reason cause)
    return (false, false)
  | .ok text =>
    takeFrom name text.length
    let lines := foundLines s text
    let count := (lines.filter (·.isFound)).length
    let view : SearchView :=
      { name := if titled then some shownName else none
        numbers := use.has 'n'
        offsets := use.has 'b'
        separates := use.hasAny "ABC" }
    let isBinary := text.contains 0 && !use.hasAny "az"
    let listEnd : UInt8 := if use.has 'Z' then 0 else Bytes.newline
    if use.has 'q' then return (0 < count, true)
    else if use.has 'l' || use.has 'L' then
      if (0 < count) = use.has 'l' then
        let _ ← emit (shownName ++ [listEnd])
    else if use.has 'c' then
      let _ ← emit ((view.name.elim [] (· ++ [0x3A])) ++ digitsOf count ++ [Bytes.newline])
    else if isBinary then
      if 0 < count && !(s.onlyMatches && s.inverted) then
        remark (shownName ++ Bytes.ofString ": binary file matches")
    else
      let _ ← emit (view.text s lines)
    return (0 < count, true)

/-- Searches files for patterns, of which the first operand is one unless options give them. -/
def searchFiles (usual : SearchManner) (use : Use) : Action Nat := do
  let given := use.hasAny "ef"
  let manner ← match searchManner? usual use with
    | some manner => pure manner
    | none =>
      remark (Bytes.ofString "conflicting matchers specified")
      return 2
  match ← patternTexts use, use.operands, given with
  | .error (name, cause), _, _ =>
    explain "" name (reason cause)
    return 2
  | .ok _, [], false =>
    tellSearchUse
    return 2
  | .ok texts, operands, _ =>
    let texts := if given then texts else operands.take 1
    let files := if given then operands else operands.drop 1
    match searchOf manner use texts with
    | .error message =>
      remark message
      return 2
    | .ok search =>
      let isDeep := use.hasAny "rR"
      let p ← get
      let names :=
        if !isDeep then if files.isEmpty then [inputSign] else files
        else if files.isEmpty then (filesBelow p use Files.here).map (·.drop 2)
        else files.flatMap (filesBelow p use)
      let titled := !use.has 'h' && (use.has 'H' || 1 < files.length || (isDeep && names ≠ files))
      let mut found := false
      let mut possible := true
      for name in names do
        if !(use.has 'q' && found) then
          let (own, isRead) ← searchFile use search titled name
          found := found || (if use.has 'L' && !use.has 'q' then !own && isRead else own)
          possible := possible && isRead
      return if found && (possible || use.has 'q') then 0 else if !possible then 2 else 1

def searchOptions : Use.Known :=
  { letters := "EFGPe:f:iyvwxm:bcHhlLnoqsaA:B:C:rRzZTUι:ξ:"
    names := [("extended-regexp", 'E'), ("fixed-strings", 'F'), ("basic-regexp", 'G'),
      ("perl-regexp", 'P'), ("regexp", 'e'), ("file", 'f'), ("ignore-case", 'i'),
      ("invert-match", 'v'), ("word-regexp", 'w'), ("line-regexp", 'x'), ("max-count", 'm'),
      ("byte-offset", 'b'), ("count", 'c'), ("with-filename", 'H'), ("no-filename", 'h'),
      ("files-with-matches", 'l'), ("files-without-match", 'L'), ("line-number", 'n'),
      ("only-matching", 'o'), ("quiet", 'q'), ("silent", 'q'), ("no-messages", 's'),
      ("text", 'a'), ("after-context", 'A'), ("before-context", 'B'), ("context", 'C'),
      ("recursive", 'r'), ("dereference-recursive", 'R'), ("null-data", 'z'), ("null", 'Z'),
      ("include", 'ι'), ("exclude", 'ξ')] }

/-- Searches lines, with patterns that are read in a manner unless options say otherwise. A number
behind a minus sign stands for so many lines around. -/
def grep (usual : SearchManner) (words : List Bytes) : Action Nat := do
  let front := words.takeWhile (· ≠ [0x2D, 0x2D])
  let own := front.map fun word =>
    match word with
    | 0x2D :: digits =>
      if !digits.isEmpty && digits.all isDigit then 0x2D :: 0x43 :: digits else word
    | _ => word
  match Use.read searchOptions {} [] (own ++ words.drop front.length) with
  | .ok use => searchFiles usual use
  | .error message =>
    remark message
    tellSearchUse
    return 2

end Intercept.Shell.Tool
