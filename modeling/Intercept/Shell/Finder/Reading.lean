import Intercept.Shell.Finder.Basic

/-!
# Reading queries

The words of a query are criteria and deeds, each with what belongs to it, and signs that join them.
First every word is looked at for itself, and then the signs.
-/

namespace Intercept.Shell.Finder

/-- A part of a query: something that is asked or done, or a sign as it is written. -/
inductive QueryPart where
  | leaf (query : Query)
  | opening
  | closing
  | negation (word : Bytes)
  | both (word : Bytes)
  | either (word : Bytes)
  | behind (word : Bytes)

/-- How the words in front of a query have been read so far. -/
structure QueryDraft where
  walk : Walk := {}
  parts : List QueryPart := []
  /-- The dialect of expressions, which may be that of an editor. -/
  dialect : Option RegularDialect := none
  /-- The last criterion or deed. -/
  latest : Option Bytes := none

/-- A failure that says what is wrong with a word. -/
abbrev Reading := Except (List Bytes)

def refuse {α : Type} (message : Bytes) : Reading α := .error [message]

/-- The word of a message, between quotes that open and close. -/
def inQuotes (front : String) (word : Bytes) (behind : String := "") : Bytes :=
  Bytes.ofString (front ++ "\x60") ++ word ++ Bytes.ofString ("'" ++ behind)

def ofPattern (ignoresCase : Bool) (text : Bytes) : Pattern :=
  let own := if ignoresCase then smallLetters text else text
  .ofMarks (own.map fun byte => { byte, quoted := false })

/-- A number, with a sign in front of it for more or less. -/
def bound? (text : Bytes) : Option Bound :=
  match text with
  | 0x2B :: rest => (number? rest).map (⟨.gt, ·⟩)
  | 0x2D :: rest => (number? rest).map (⟨.lt, ·⟩)
  | _ => (number? text).map (⟨.eq, ·⟩)

/-- An expression of the dialect of an editor in the extended one: signs for groups and choices have
their meaning behind backslashes, and braces have none. -/
def ofEditorDialect : Bytes → Bytes
  | [] => []
  | [b] => if isGrouping b then [0x5C, b] else [b]
  | b :: c :: rest =>
    if b = 0x5C then
      (if isGroup c then [c] else if c = 0x7B || c = 0x7D then [0x5C, c] else [b, c]) ++
        ofEditorDialect rest
    else (if isGrouping b then [0x5C, b] else [b]) ++ ofEditorDialect (c :: rest)
where
  isGroup (b : UInt8) : Bool := b = 0x28 || b = 0x29 || b = 0x7C
  isGrouping (b : UInt8) : Bool := isGroup b || b = 0x7B || b = 0x7D

/-- The dialects of expressions by their names; none stands for that of an editor. -/
def dialects : List (String × Option RegularDialect) :=
  let basic : RegularDialect := {}
  let extended : RegularDialect := { extended := true }
  [("findutils-default", none), ("ed", some basic), ("emacs", none), ("gnu-awk", some extended),
    ("grep", some basic), ("posix-awk", some extended), ("awk", some extended),
    ("posix-basic", some basic), ("posix-egrep", some extended), ("egrep", some extended),
    ("posix-extended", some extended), ("posix-minimal-basic", some basic), ("sed", some basic)]

/-- The number of bytes in a unit of sizes. -/
def sizeUnit? (letter : UInt8) : Option Nat :=
  [((0x62 : UInt8), 512), (0x63, 1), (0x77, 2), (0x6B, 1024), (0x4D, 1048576),
    (0x47, 1073741824)].lookup letter

/-- The letters of kinds between commas. -/
def kinds (name word : Bytes) : Reading Bytes := do
  let known := Bytes.ofString "bcdflpsD"
  if word.isEmpty then
    refuse (Bytes.ofString "Arguments to " ++ name ++ Bytes.ofString
      " should contain at least one letter")
  (Bytes.splitAt 0x2C word).mapM fun part =>
    match part with
    | [letter] =>
      if known.contains letter then return letter
      else refuse (Bytes.ofString "Unknown argument to " ++ name ++ Bytes.ofString ": " ++ [letter])
    | letter :: _ =>
      if known.contains letter then
        refuse (Bytes.ofString "Must separate multiple arguments to " ++ name ++
          Bytes.ofString " using: ','")
      else refuse (Bytes.ofString "Unknown argument to " ++ name ++ Bytes.ofString ": " ++ [letter])
    | [] =>
      refuse (Bytes.ofString "Last file type in list argument to " ++ name ++
        Bytes.ofString " is missing, i.e., list is ending on: ','")

/-- The time of what is at a path. -/
def timeAt (p : Process) (path : Bytes) : Reading Files.Moment :=
  match p.tree.find p.directory path with
  | .ok (.node place _) => .ok (((p.tree.attributes? place).map (·.time)).getD 0)
  | .ok (.free _) =>
    refuse (quotedText path ++ Bytes.ofString s!": {Errno.noSuchFile.description}")
  | .error cause => refuse (quotedText path ++ Bytes.ofString s!": {Tool.reason cause}")

/-- The criterion of a name that takes a word, if there is one. -/
def criterionWith? (p : Process) (d : QueryDraft) (name : String) (word : Bytes) :
    Option (Reading Criterion) :=
  let shown := Bytes.ofString ("-" ++ name)
  let bounded (make : Bound → Criterion) : Reading Criterion :=
    match bound? word with
    | some bound => .ok (make bound)
    | none => refuse (inQuotes "invalid argument " word " to " ++ inQuotes "" shown)
  let expression (ignoresCase : Bool) : Reading Criterion :=
    let read := match d.dialect with
      | some dialect => Regular.read dialect word
      | none => Regular.read { extended := true } (ofEditorDialect word)
    match read with
    | .ok expression => .ok (.spelled expression ignoresCase)
    | .error flaw => refuse (Bytes.ofString "failed to compile regular expression '" ++ word ++
        Bytes.ofString s!"': {flaw.message}")
  let owned (isGroup : Bool) : Reading Criterion :=
    let known : Option Nat :=
      if isGroup then
        ((groups.find? fun (own, _) => Bytes.ofString own = word).map (·.2)).orElse fun _ =>
          number? word
      else ((accounts.find? fun a => Bytes.ofString a.name = word).map (·.user)).orElse fun _ =>
        number? word
    match known with
    | some number => .ok (.owner number)
    | none => refuse (quotedText word ++ Bytes.ofString (if isGroup
        then " is not the name of an existing group" else " is not the name of a known user"))
  match name with
  | "name" => some (.ok (.called (ofPattern false word) false false))
  | "iname" => some (.ok (.called (ofPattern true word) true false))
  | "path" | "wholename" => some (.ok (.called (ofPattern false word) false true))
  | "ipath" | "iwholename" => some (.ok (.called (ofPattern true word) true true))
  | "lname" => some (.ok (.linked (ofPattern false word) false))
  | "ilname" => some (.ok (.linked (ofPattern true word) true))
  | "regex" => some (expression false)
  | "iregex" => some (expression true)
  | "type" => some ((kinds shown word).map (.kind · d.walk.follows))
  | "xtype" => some ((kinds shown word).map (.kind · (!d.walk.follows)))
  | "size" =>
    let unit? := word.getLast?.bind sizeUnit?
    let digits := if unit?.isSome then word.dropLast else word
    let letters := word.filter fun b => !isDigit b
    some (match bound? digits with
      | some bound => .ok (.size bound (unit?.getD 512))
      | none => refuse (inQuotes "invalid -size type " (letters.drop (letters.length - 1))))
  | "mtime" | "atime" | "ctime" => some (bounded (.age · 86400 false))
  | "mmin" | "amin" | "cmin" => some (bounded (.age · 60 true))
  | "newer" | "anewer" | "cnewer" => some ((timeAt p word).map .newer)
  | "newermt" | "newerat" | "newerct" =>
    some (match Tool.moment p.system.now word with
      | some moment => .ok (.newer moment)
      | none => refuse (Bytes.ofString "I cannot figure out how to interpret " ++
          quotedText word ++ Bytes.ofString " as a date or time"))
  | "perm" =>
    let manner := word.head?.filter fun b => b = 0x2D || b = 0x2F
    let mode := if manner.isSome then word.drop 1 else word
    some (match Tool.RightsChange.readAll? mode with
      | some changes => .ok (.rights manner (Tool.RightsChange.applyAll false 0 0 changes))
      | none => refuse (Bytes.ofString "invalid mode " ++ quotedText word))
  | "links" => some (bounded .holders)
  | "inum" => some (bounded .number)
  | "uid" | "gid" =>
    some (bounded fun bound => .fixed (bound.admits 0))
  | "user" => some (owned false)
  | "group" => some (owned true)
  | "samefile" =>
    some (match p.tree.node? p.directory word with
      | some (place, _) =>
        let number := ((p.tree.attributes? place).map (·.number)).getD 0
        .ok (.number ⟨.eq, number⟩)
      | none => refuse (quotedText word ++ Bytes.ofString s!": {Errno.noSuchFile.description}"))
  | _ => none

/-- The criterion of a name that stands alone, if there is one. -/
def criterion? (name : String) : Option Criterion :=
  match name with
  | "true" | "readable" | "writable" => some (.fixed true)
  | "false" | "nouser" | "nogroup" => some (.fixed false)
  | "empty" => some .empty
  | "executable" => some .executable
  | _ => none

/-- The deed of a name that stands alone, if there is one. -/
def deed? (name : String) : Option Deed :=
  match name with
  | "print" => some (.show Bytes.newline)
  | "print0" => some (.show 0)
  | "ls" => some .list
  | "delete" => some .delete
  | "prune" => some .prune
  | "quit" => some .quit
  | _ => none

/-- How the walk is changed by a name that stands alone, if it is. -/
def Walk.turn? (walk : Walk) (name : String) : Option Walk :=
  match name with
  | "depth" | "d" => some { walk with insideFirst := true }
  | "follow" => some { walk with follows := true, followsOperands := true }
  | "xdev" | "mount" | "noleaf" | "warn" | "nowarn" | "daystart" | "ignore_readdir_race"
  | "noignore_readdir_race" => some walk
  | _ => none

/-- The sign that a word is, if it is one. -/
def sign? (word : Bytes) : Option QueryPart :=
  match Utf8.text word with
  | "(" => some .opening
  | ")" => some .closing
  | "!" | "-not" => some (.negation word)
  | "-a" | "-and" => some (.both word)
  | "-o" | "-or" => some (.either word)
  | "," => some (.behind word)
  | _ => none

/-- Whether a word is taken for a part of a query and not for a path. -/
def isQueryWord (isFirst : Bool) (word : Bytes) : Bool :=
  match word with
  | [0x28] | [0x21] => true
  | [0x29] | [0x2C] => !isFirst
  | 0x2D :: _ :: _ => true
  | _ => false

/-- The words of a program that is to be started, up to the sign for their end, and what follows it.
The second value tells whether many paths are given to it at once. -/
def programWords (name : String) (rest : List Bytes) :
    Reading (List Bytes × Bool × List Bytes) := do
  let missing : Reading (List Bytes × Bool × List Bytes) :=
    refuse (inQuotes "missing argument to " (Bytes.ofString ("-" ++ name)))
  let braces : Bytes := [0x7B, 0x7D]
  let isEnd (index : Nat) (word : Bytes) : Bool :=
    word = [0x3B] || (word = [0x2B] && 0 < index && rest[index - 1]? = some braces)
  match rest.zipIdx.find? fun (word, index) => isEnd index word with
  | none => missing
  | some (word, index) =>
    let words := rest.take index
    if words.isEmpty then
      refuse (inQuotes "invalid argument " [0x3B] " to " ++
        inQuotes "" (Bytes.ofString ("-" ++ name)))
    else if word = [0x3B] then return (words, false, rest.drop (index + 1))
    else
      let front := words.dropLast
      if front.contains braces then
        refuse (Bytes.ofString s!"Only one instance of \x7b\x7d is supported with -{name} ... +")
      else return (front, true, rest.drop (index + 1))

/-- Checks the format in which facts are shown. -/
def checkedFormat (text : Bytes) : Reading Bytes :=
  if (text.reverse.takeWhile (· = 0x25)).length % 2 = 1 then
    refuse (Bytes.ofString "error: % at end of format string")
  else .ok text

namespace QueryDraft

def push (d : QueryDraft) (name : Bytes) (query : Query) : QueryDraft :=
  { d with parts := d.parts ++ [.leaf query], latest := some name }

/-- Takes up a word that begins with a minus sign, and what belongs to it. -/
def takeNamed (p : Process) (d : QueryDraft) (word : Bytes) (rest : List Bytes) :
    Reading (QueryDraft × List Bytes) := do
  let name := Utf8.text (word.drop 1)
  let unknown : Reading (QueryDraft × List Bytes) :=
    refuse (inQuotes "unknown predicate " word)
  let needed : Reading (Bytes × List Bytes) := match rest with
    | argument :: rest => .ok (argument, rest)
    | [] =>
      if name.startsWith "newer" && name.length = 7 then
        refuse (Bytes.ofString "The '" ++ word ++ Bytes.ofString "' test needs an argument")
      else refuse (inQuotes "missing argument to " word)
  let pushed (query : Query) (rest : List Bytes) : Reading (QueryDraft × List Bytes) :=
    .ok (d.push word query, rest)
  match criterion? name, deed? name, d.walk.turn? name with
  | some criterion, _, _ => pushed (.criterion criterion) rest
  | none, some deed, _ =>
    let inside := { d.walk with insideFirst := true }
    let d := if name = "delete" then { d with walk := inside } else d
    .ok (d.push word (.deed deed none), rest)
  | none, none, some walk =>
    .ok ({ d with walk }.push word (.criterion (.fixed true)), rest)
  | none, none, none =>
    match name with
    | "maxdepth" | "mindepth" =>
      let (argument, rest) ← needed
      match number? argument with
      | some n =>
        let walk := if name = "maxdepth" then { d.walk with deepest := some n }
          else { d.walk with least := n }
        return ({ d with walk }.push word (.criterion (.fixed true)), rest)
      | none =>
        refuse (Bytes.ofString s!"Expected a positive decimal integer argument to -{name}" ++
          Bytes.ofString ", but got " ++ quotedText argument)
    | "regextype" =>
      let (argument, rest) ← needed
      match dialects.find? fun (own, _) => Bytes.ofString own = argument with
      | some (_, dialect) =>
        return ({ d with dialect }.push word (.criterion (.fixed true)), rest)
      | none =>
        let shown := String.intercalate ", " (dialects.map fun (own, _) => s!"'{own}'")
        refuse (Bytes.ofString "Unknown regular expression type " ++ quotedText argument ++
          Bytes.ofString s!"; valid types are {shown}.")
    | "printf" =>
      let (argument, rest) ← needed
      pushed (.deed (.format (← checkedFormat argument)) none) rest
    | "fprint" | "fprint0" | "fls" =>
      let (path, rest) ← needed
      let deed : Deed := if name = "fls" then .list
        else .show (if name = "fprint0" then 0 else Bytes.newline)
      pushed (.deed deed (some path)) rest
    | "fprintf" =>
      let (path, rest) ← needed
      match rest with
      | format :: rest => pushed (.deed (.format (← checkedFormat format)) (some path)) rest
      | [] => refuse (inQuotes "missing argument to " word)
    | "exec" | "execdir" | "ok" | "okdir" =>
      let (words, isMany, rest) ← programWords name rest
      let enters := name = "execdir" || name = "okdir"
      let asks := name = "ok" || name = "okdir"
      if isMany && !asks then pushed (.deed (.startAll words enters) none) rest
      else pushed (.deed (.start words enters asks) none) rest
    | _ =>
      if (criterionWith? p d name []).isNone then unknown
      else
        let (argument, rest) ← needed
        match criterionWith? p d name argument with
        | some criterion => pushed (.criterion (← criterion)) rest
        | none => unknown

/-- Takes up all words. The first argument bounds their number. -/
def takeAll (p : Process) : Nat → QueryDraft → List Bytes → Reading QueryDraft
  | 0, d, _ => .ok d
  | _ + 1, d, [] => .ok d
  | fuel + 1, d, word :: rest => do
    match sign? word with
    | some part => takeAll p fuel { d with parts := d.parts ++ [part] } rest
    | none =>
      if isQueryWord false word then
        let (d, rest) ← d.takeNamed p word rest
        takeAll p fuel d rest
      else
        let isThere := p.tree.names p.directory word
        let hint := match d.latest with
          | some name =>
            if isThere then [inQuotes "possible unquoted pattern after predicate " name "?"] else []
          | none => []
        .error (inQuotes "paths must precede expression: " word :: hint)

end QueryDraft

/-- What a part is called in messages, if it is a sign that joins two queries. -/
def QueryPart.joiner? : QueryPart → Option Bytes
  | both word | either word | behind word => some word
  | _ => none

mutual

/-- Reads queries of which only the last counts. The first argument bounds the depth. -/
def readBehind : Nat → List QueryPart → Reading (Query × List QueryPart)
  | 0, _ => refuse []
  | fuel + 1, parts => do
    let (first, rest) ← readEither fuel parts
    match rest with
    | .behind word :: rest =>
      if rest.isEmpty then
        refuse (Bytes.ofString "expected an expression after " ++ quotedText word)
      let (second, rest) ← readBehind fuel rest
      return (.behind first second, rest)
    | rest => return (first, rest)

/-- Reads queries of which one has to hold. -/
def readEither : Nat → List QueryPart → Reading (Query × List QueryPart)
  | 0, _ => refuse []
  | fuel + 1, parts => do
    let (first, rest) ← readBoth fuel parts
    match rest with
    | .either word :: rest =>
      if rest.isEmpty then
        refuse (Bytes.ofString "expected an expression after " ++ quotedText word)
      let (second, rest) ← readEither fuel rest
      return (.either first second, rest)
    | rest => return (first, rest)

/-- Reads queries that all have to hold. -/
def readBoth : Nat → List QueryPart → Reading (Query × List QueryPart)
  | 0, _ => refuse []
  | fuel + 1, parts => do
    let (first, rest) ← readOne fuel parts
    match rest with
    | .both word :: rest =>
      if rest.isEmpty then
        refuse (Bytes.ofString "expected an expression after " ++ quotedText word)
      let (second, rest) ← readBoth fuel rest
      return (.both first second, rest)
    | [] | .closing :: _ | .either _ :: _ | .behind _ :: _ => return (first, rest)
    | rest =>
      let (second, rest) ← readBoth fuel rest
      return (.both first second, rest)

/-- Reads a query without signs that join it to others. -/
def readOne : Nat → List QueryPart → Reading (Query × List QueryPart)
  | 0, _ => refuse []
  | _ + 1, [] => refuse []
  | fuel + 1, part :: rest => do
    match part with
    | .leaf query => return (query, rest)
    | .negation word =>
      if rest.isEmpty then
        refuse (Bytes.ofString "expected an expression after " ++ quotedText word)
      let (query, rest) ← readOne fuel rest
      return (.negation query, rest)
    | .opening =>
      let unclosed := Bytes.ofString
        "invalid expression; I was expecting to find a ')' somewhere but did not see one."
      match rest with
      | [] => refuse unclosed
      | .closing :: _ =>
        refuse (Bytes.ofString "invalid expression; empty parentheses are not allowed.")
      | rest =>
        let (query, rest) ← readBehind fuel rest
        match rest with
        | .closing :: rest => return (query, rest)
        | _ => refuse unclosed
    | .closing =>
      refuse (Bytes.ofString "invalid expression; you have too many ')'")
    | part =>
      refuse (Bytes.ofString "invalid expression; you have used a binary operator " ++
        quotedText ((part.joiner?).getD []) ++ Bytes.ofString " with nothing before it.")

end

/-- The query of some parts; what is found is shown where nothing else is done with it. -/
def queryOf (parts : List QueryPart) : Reading Query := do
  let shows : Query := .deed (.show Bytes.newline) none
  if parts.isEmpty then return shows
  let (query, rest) ← readBehind (5 * parts.length + 5) parts
  match rest with
  | [] => return if query.acts then query else .both query shows
  | .closing :: _ => refuse (Bytes.ofString "you have too many ')'")
  | _ => refuse []

end Intercept.Shell.Finder
