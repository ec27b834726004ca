import Intercept.Files.Calendar
import Intercept.Shell.Tool.Columns
import Intercept.Shell.Tool.Rights

/-!
# Lists of directories

The tool that lists what is in directories: names alone, or what is known of each of them.
-/

namespace Intercept.Shell.Tool

/-- How names are put on lines. -/
inductive EntryLayout where
  | single
  | columns (down : Bool)
  | commas
  /-- A line of all that is known; the owner and the group may be left out. -/
  | long (owner group : Bool)
  deriving DecidableEq, Repr

/-- How bytes of a name are shown. -/
inductive NameStyle where
  | plain
  /-- A question mark for each byte that has no visible form. -/
  | marked
  /-- Visible forms behind backslashes, between double quotes or without them. -/
  | escaped (quoted : Bool)
  deriving DecidableEq, Repr

inductive EntryOrder where
  | name
  | time
  | size
  | ending
  | none
  deriving DecidableEq, Repr

structure EntryListing where
  layout : EntryLayout := .single
  style : NameStyle := .plain
  order : EntryOrder := .name
  reversed : Bool := false
  /-- Whether names with a leading point are shown, and whether those of the directory itself and of
  the one above are. -/
  showsHidden : Bool := false
  showsSelf : Bool := false
  /-- Whether a directory is shown itself, and not what is in it. -/
  itself : Bool := false
  recursive : Bool := false
  /-- The signs behind names, by the kind of the node, if it has one. -/
  showsSlash : Bool := false
  showsKind : Bool := false
  showsNumber : Bool := false
  follows : Bool := false
  /-- Whether links among the operands are followed, where that is said. -/
  followsOperands : Bool := false

namespace EntryListing

/-- The listing with what a letter asks for. -/
def add (listing : EntryListing) (letter : Char) : EntryListing :=
  let isLong := match listing.layout with
    | .long .. => true
    | _ => false
  let long (change : Bool × Bool → Bool × Bool) : EntryListing :=
    let now := match listing.layout with
      | .long owner group => (owner, group)
      | _ => (true, true)
    let (owner, group) := change now
    { listing with layout := .long owner group }
  match letter with
  | 'a' => { listing with showsHidden := true, showsSelf := true }
  | 'A' => { listing with showsHidden := true, showsSelf := false }
  | 'd' => { listing with itself := true }
  | 'R' => { listing with recursive := true }
  | 'r' => { listing with reversed := true }
  | 't' => { listing with order := .time }
  | 'S' => { listing with order := .size }
  | 'X' => { listing with order := .ending }
  | 'U' => { listing with order := .none }
  | 'f' => { listing with order := .none, showsHidden := true, showsSelf := true }
  | 'F' => { listing with showsKind := true }
  | 'p' => { listing with showsSlash := true }
  | 'i' => { listing with showsNumber := true }
  | 'L' => { listing with follows := true }
  | 'H' => { listing with followsOperands := true }
  | 'Q' => { listing with style := .escaped true }
  | 'b' => { listing with style := .escaped false }
  | 'N' => { listing with style := .plain }
  | 'q' => { listing with style := .marked }
  | 'l' => long id
  | 'n' => long id
  | 'g' => long fun (_, group) => (false, group)
  | 'o' => long fun (owner, _) => (owner, false)
  | 'C' => { listing with layout := .columns true }
  | 'x' => { listing with layout := .columns false }
  | 'm' => { listing with layout := .commas }
  | '1' => if isLong then listing else { listing with layout := .single }
  | _ => listing

end EntryListing

/-- What is listed: a name, the node that it stands for, and what is known of that. -/
structure Listed where
  name : Bytes
  place : Files.Place
  node : Files.Node
  attributes : Files.Attributes

namespace Listed

def of (tree : Files.Tree) (name : Bytes) (place : Files.Place) (node : Files.Node) : Listed :=
  let attributes := (tree.attributes? place).getD { mode := node.usualMode }
  { name, place, node, attributes }

/-- The number of bytes that the node is said to have. -/
def size (listed : Listed) : Nat :=
  match listed.node with
  | .directory => 4096
  | .file contents => contents.length
  | .link target => target.length
  | .tool _ => toolSize
  | _ => 0
where
  /-- The size of a tool. -/
  toolSize : Nat := 65536

/-- The name behind its last point, with the point. -/
def ending (listed : Listed) : Bytes :=
  let behind := (listed.name.reverse.takeWhile (· ≠ 0x2E)).reverse
  if behind.length = listed.name.length then [] else 0x2E :: behind

/-- Whether something is listed before something else. -/
def isBefore (order : EntryOrder) (a b : Listed) : Bool :=
  match order with
  | .time => b.attributes.time < a.attributes.time ||
      (a.attributes.time = b.attributes.time && bytesLe a.name b.name)
  | .size => b.size < a.size || (a.size = b.size && bytesLe a.name b.name)
  | .ending => a.ending ≠ b.ending && bytesLe a.ending b.ending ||
      (a.ending = b.ending && bytesLe a.name b.name)
  | _ => bytesLe a.name b.name

/-- What is listed in the order that is asked for. -/
def sorted (listing : EntryListing) (all : List Listed) : List Listed :=
  match listing.order with
  | .none => all
  | order =>
    let ordered := all.mergeSort (isBefore order)
    if listing.reversed then ordered.reverse else ordered

/-- The sign of what a node is. -/
def sign (listing : EntryListing) (node : Files.Node) (mode : Nat) : Bytes :=
  if node = .directory then
    if listing.showsKind || listing.showsSlash then [Bytes.slash] else []
  else if !listing.showsKind then []
  else
    match node with
    | .link _ => [0x40]
    | .stream _ => [0x7C]
    | .file _ | .tool _ => if mode &&& 0o111 = 0 then [] else [0x2A]
    | _ => []

/-- A name as it is shown. -/
def shown (style : NameStyle) (name : Bytes) : Bytes :=
  let escape (own : List UInt8) (b : UInt8) : Bytes :=
    if own.contains b then [0x5C, b] else if isPrintable b then [b] else visibleEscape b
  match style with
  | .plain => name
  | .marked => name.map fun b => if isPrintable b then b else 0x3F
  | .escaped true => Bytes.quote :: name.flatMap (escape [Bytes.quote, 0x5C]) ++ [Bytes.quote]
  | .escaped false => name.flatMap (escape [Bytes.space, 0x5C])

/-- The letter of what a node is. -/
def kindLetter (node : Files.Node) : Char :=
  match node with
  | .directory => 'd'
  | .link _ => 'l'
  | .device _ => 'c'
  | .stream _ => 'p'
  | _ => '-'

/-- How many names a node has. A directory has one in each that is in it, and two more. -/
def holders (tree : Files.Tree) (listed : Listed) : Nat :=
  match listed.node with
  | .directory =>
    2 + ((tree.namesIn listed.place).filter fun name =>
      tree.get? (listed.place ++ [name]) = some .directory).length
  | _ => max 1 (tree.holders listed.place)

/-- How many seconds a time can lie back for the time of day to be shown. -/
def recentSeconds : Nat := 15778476

/-- The time as it is shown: the time of day for one that is not long ago, and else the year. -/
def timeText (now time : Files.Moment) : String :=
  let date := Files.Date.ofMoment time
  let month := ((Files.Date.monthNames[date.month - 1]?).getD "").take 3
  let aligned (width : Nat) (n : String) : String :=
    String.ofList (List.replicate (width - n.length) ' ') ++ n
  let two (n : Nat) : String := if n < 10 then s!"0{n}" else s!"{n}"
  let age := now - time
  let behind :=
    if 0 ≤ age && age < recentSeconds * Files.secondLength then
      s!"{two date.hour}:{two date.minute}"
    else aligned 5 (toString date.year)
  s!"{month} {aligned 2 (toString date.day)} {behind}"

/-- What stands behind a name: its sign, or where a link leads to. -/
def behind (listing : EntryListing) (listed : Listed) : Bytes :=
  match listing.layout, listed.node with
  | .long .., .link target => Bytes.ofString " -> " ++ shown listing.style target
  | _, node => sign listing node listed.attributes.mode

/-- A name with its number and its sign, where these are asked for. -/
def text (listing : EntryListing) (listed : Listed) : Bytes :=
  let number := if listing.showsNumber then Bytes.ofString s!"{listed.attributes.number} " else []
  number ++ shown listing.style listed.name ++ behind listing listed

end Listed

/-- Lines with all that is known of each node. -/
def longLines (listing : EntryListing) (owner group : Bool) (now : Files.Moment)
    (tree : Files.Tree) (all : List Listed) : Bytes :=
  let aligned (width : Nat) (n : Nat) : String :=
    let digits := toString n
    String.ofList (List.replicate (width - digits.length) ' ') ++ digits
  let width (own : Listed → Nat) : Nat :=
    all.foldl (fun width listed => max width (toString (own listed)).length) 1
  let (holders, sizes) := (width (Listed.holders tree), width Listed.size)
  all.flatMap fun listed =>
    let kind := Listed.kindLetter listed.node
    let names := (if owner then "root " else "") ++ if group then "root " else ""
    let time := Listed.timeText now listed.attributes.time
    Bytes.ofString s!"{kind}{rightsLetters listed.attributes.mode} " ++
      Bytes.ofString s!"{aligned holders (listed.holders tree)} {names}" ++
      Bytes.ofString s!"{aligned sizes listed.size} {time} " ++
      listed.text listing ++ [Bytes.newline]

/-- What is listed, on its lines. -/
def layOut (listing : EntryListing) (now : Files.Moment) (tree : Files.Tree)
    (all : List Listed) : Bytes :=
  let names := all.map (·.text listing)
  match listing.layout with
  | .single => names.flatMap (· ++ [Bytes.newline])
  | .columns down => inColumns down names
  | .commas => withCommas names
  | .long owner group => longLines listing owner group now tree all

/-- The number of blocks of a file system that a node takes. -/
def blocksOf (listed : Listed) : Nat :=
  match listed.node with
  | .directory => 4
  | .file _ | .tool _ => (listed.size + 4095) / 4096 * 4
  | _ => 0

/-- What is listed of a directory. -/
def entriesIn (listing : EntryListing) (tree : Files.Tree) (place : Files.Place) : List Listed :=
  let own := (tree.namesIn place).filter fun name =>
    listing.showsHidden || name.head? ≠ some 0x2E
  let listed (name : Bytes) : Listed :=
    let place := place ++ [name]
    let node := (tree.get? place).getD .directory
    match node, if listing.follows then tree.node? place.dropLast name else none with
    | .link _, some (target, found) => .of tree name target found
    | _, _ => .of tree name place node
  let selves : List Listed :=
    if listing.showsSelf then
      [.of tree Files.here place .directory, .of tree Files.above place.dropLast .directory]
    else []
  Listed.sorted listing (selves ++ own.map listed)

/-- The listings of a directory, and of those in it where that is asked for, each behind its path if
there are several. -/
def directoryBlocks (listing : EntryListing) (titled : Bool) (now : Files.Moment)
    (tree : Files.Tree) : Nat → Bytes → Files.Place → List Bytes
  | 0, _, _ => []
  | depth + 1, path, place =>
    let entries := entriesIn listing tree place
    let title := if titled then Listed.shown listing.style path ++ Bytes.ofString ":\n" else []
    let total := match listing.layout with
      | .long .. =>
        Bytes.ofString s!"total {(entries.map blocksOf).foldl (· + ·) 0}\n"
      | _ => []
    let below := entries.flatMap fun listed =>
      if listing.recursive && listed.node = .directory &&
          listed.name ≠ Files.here && listed.name ≠ Files.above then
        let start := if path.getLast? = some Bytes.slash then path else path ++ [Bytes.slash]
        directoryBlocks listing titled now tree depth (start ++ listed.name) listed.place
      else []
    (title ++ total ++ layOut listing now tree entries) :: below

/-- Lists what is at paths: files themselves first, and then what is in directories. -/
def ls (start : EntryListing) (use : Use) : Action Nat := do
  let listing := (use.options.map (·.1)).foldl EntryListing.add start
  let p ← get
  let paths := if use.operands.isEmpty then [Files.here] else use.operands
  let isLong := match listing.layout with
    | .long .. => true
    | _ => false
  let keepsLinks := listing.itself || listing.showsKind || isLong
  let found (path : Bytes) : Except Cause (Files.Place × Files.Node) :=
    let own := nodeAt p.tree p.directory path
    match p.tree.node? p.directory path with
    | some followed =>
      if listing.follows || listing.followsOperands || !keepsLinks then .ok followed else own
    | none => if listing.follows then own.bind fun _ => .error (.numbered .noSuchFile) else own
  let mut listed : List Listed := []
  let mut status := 0
  for path in paths do
    match found path with
    | .ok (place, node) => listed := listed ++ [.of p.tree path place node]
    | .error cause =>
      explain "cannot access " (shellQuoted path) (reason cause)
      status := 2
  let isOpened (one : Listed) : Bool := one.node = .directory && !listing.itself
  let sorted := Listed.sorted listing listed
  let others := sorted.filter (!isOpened ·)
  let titled := 1 < paths.length || listing.recursive
  let blocks := (sorted.filter isOpened).flatMap fun one =>
    directoryBlocks listing titled p.system.now p.tree 100 one.name one.place
  let alone := if others.isEmpty then [] else [layOut listing p.system.now p.tree others]
  let written ← emit (Bytes.joinWith Bytes.newline (alone ++ blocks))
  return if written then status else 2

/-- The options of a listing. -/
def lsOptions : Use.Known :=
  { letters := "1aAdFprRtSXUfuchlgonisQbqNLHCxmkGBvw:I:T:"
    names := [("all", 'a'), ("almost-all", 'A'), ("directory", 'd'), ("classify", 'F'),
      ("reverse", 'r'), ("recursive", 'R'), ("escape", 'b'), ("quote-name", 'Q'),
      ("literal", 'N'), ("hide-control-chars", 'q'), ("dereference", 'L'), ("inode", 'i'),
      ("size", 's'), ("width", 'w'), ("ignore", 'I'), ("human-readable", 'h'), ("no-group", 'G'),
      ("numeric-uid-gid", 'n'), ("ignore-backups", 'B')] }

end Intercept.Shell.Tool
