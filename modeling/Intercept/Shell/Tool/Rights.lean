import Intercept.Shell.Tool.Places

/-!
# The rights of files

A mode is a number in octal digits, or clauses between commas that change the rights of some users:
of the owner, the group and others. Where a clause names no users, the rights that new files do not
get are left as they are.
-/

namespace Intercept.Shell.Tool

/-- What a change does with the bits that it names. -/
inductive RightsSign where
  | set
  | add
  | remove
  deriving DecidableEq, Repr

/-- Where a change takes its bits from. -/
inductive RightsSource where
  | bits (value : Nat)
  /-- Those of some users. -/
  | existing (users : Nat)
  /-- Bits, and the right to execute where there is one already. -/
  | executable (value : Nat)
  deriving DecidableEq, Repr

structure RightsChange where
  sign : RightsSign
  /-- The bits of the users; none where no user is named. -/
  users : Nat
  source : RightsSource
  /-- The bits that the change names. -/
  mentioned : Nat
  deriving DecidableEq, Repr

namespace RightsChange

/-- All bits of a mode. -/
def allBits : Nat := 0o7777

/-- The bits for taking over the owner or the group. -/
def identityBits : Nat := 0o6000

/-- All bits but some. -/
def without (bits : Nat) : Nat := allBits ^^^ (bits &&& allBits)

/-- The bits that are changed for users. -/
def usersBits? (letters : Bytes) : Option Nat :=
  letters.foldlM (fun bits letter =>
    match Bytes.asChar letter with
    | 'u' => some (bits ||| 0o4700)
    | 'g' => some (bits ||| 0o2070)
    | 'o' => some (bits ||| 0o1007)
    | 'a' => some allBits
    | _ => none) 0

/-- The value of octal digits, if it is that of a mode. -/
def octal? (digits : Bytes) : Option Nat :=
  let value := digits.foldl (fun n b => 8 * n + (b.toNat - 48)) 0
  if digits.isEmpty || digits.any (fun b => b < 0x30 || 0x37 < b) || allBits < value then none
  else some value

/-- The bits that letters name, and whether they ask for execution where there is any. -/
def lettersBits (letters : Bytes) : Nat × Bool :=
  letters.foldl (fun (bits, isOptional) letter =>
    match Bytes.asChar letter with
    | 'r' => (bits ||| 0o444, isOptional)
    | 'w' => (bits ||| 0o222, isOptional)
    | 'x' => (bits ||| 0o111, isOptional)
    | 'X' => (bits, true)
    | 's' => (bits ||| identityBits, isOptional)
    | _ => (bits ||| 0o1000, isOptional)) (0, false)

def isSign (b : UInt8) : Bool := (Bytes.ofString "+-=").contains b

/-- A change from its sign and what stands behind that up to the next sign. -/
def read? (users : Nat) (sign : UInt8) (text : Bytes) : Option RightsChange :=
  let sign : RightsSign := match Bytes.asChar sign with
    | '+' => .add
    | '-' => .remove
    | _ => .set
  let of (source : RightsSource) (value : Nat) : RightsChange :=
    { sign, users, source, mentioned := if users = 0 then value else users &&& value }
  match text with
  | [0x75] => some (of (.existing 0o700) 0o700)
  | [0x67] => some (of (.existing 0o070) 0o070)
  | [0x6F] => some (of (.existing 0o007) 0o007)
  | first :: _ =>
    if isDigit first then
      if users ≠ 0 then none
      else (octal? text).map fun value =>
        { sign, users := allBits, source := .bits value, mentioned := allBits }
    else if text.all (Bytes.ofString "rwxXst").contains then
      let (value, isOptional) := lettersBits text
      some (of (if isOptional then .executable value else .bits value) value)
    else none
  | [] => some (of (.bits 0) 0)

/-- The changes for some users, each with its sign. -/
def readSigned? (users : Nat) : Nat → Bytes → Option (List RightsChange)
  | 0, _ => none
  | _, [] => some []
  | fuel + 1, sign :: rest => do
    let own := rest.takeWhile (!isSign ·)
    let first ← read? users sign own
    let others ← readSigned? users fuel (rest.drop own.length)
    return first :: others

/-- The changes of a clause. -/
def readClause? (clause : Bytes) : Option (List RightsChange) := do
  let letters := clause.takeWhile (!isSign ·)
  let signed := clause.drop letters.length
  if signed.isEmpty then none
  else readSigned? (← usersBits? letters) (signed.length + 1) signed

/-- The changes that a mode asks for. -/
def readAll? (mode : Bytes) : Option (List RightsChange) :=
  if mode.head?.any isDigit then
    (octal? mode).map fun value =>
      let mentioned := if mode.length < 5 then (value &&& identityBits) ||| 0o1777 else allBits
      [{ sign := .set, users := allBits, source := .bits value, mentioned }]
  else ((Bytes.splitAt 0x2C mode).mapM readClause?).map List.flatten

/-- The rights after a change. The bits for taking over are left to a directory unless they are
mentioned. -/
def apply (isDirectory : Bool) (mask rights : Nat) (change : RightsChange) : Nat :=
  let kept := if isDirectory then identityBits &&& without change.mentioned else 0
  let value := match change.source with
    | .bits value => value
    | .existing users =>
      let own := rights &&& users
      let any (bits : Nat) : Nat := if own &&& bits = 0 then 0 else bits
      any 0o444 ||| any 0o222 ||| any 0o111
    | .executable value =>
      if isDirectory || rights &&& 0o111 ≠ 0 then value ||| 0o111 else value
  let reached := if change.users = 0 then without mask else change.users
  let value := value &&& reached &&& without kept
  match change.sign with
  | .add => rights ||| value
  | .remove => rights &&& without value
  | .set =>
    let preserved := (if change.users = 0 then 0 else without change.users) ||| kept
    (rights &&& preserved) ||| value

/-- The rights after changes. -/
def applyAll (isDirectory : Bool) (mask rights : Nat) (changes : List RightsChange) : Nat :=
  changes.foldl (apply isDirectory mask) rights

end RightsChange

/-- Rights in nine letters: reading, writing and executing for the owner, the group and others. -/
def rightsLetters (mode : Nat) : String :=
  let letter (bit : Nat) (own : Char) : Char := if mode &&& bit = 0 then '-' else own
  let last (bit special : Nat) (whenBoth : Char) : Char :=
    if mode &&& special = 0 then letter bit 'x'
    else if mode &&& bit = 0 then whenBoth.toUpper
    else whenBoth
  String.ofList
    [letter 0o400 'r', letter 0o200 'w', last 0o100 0o4000 's',
      letter 0o040 'r', letter 0o020 'w', last 0o010 0o2000 's',
      letter 0o004 'r', letter 0o002 'w', last 0o001 0o1000 't']

/-- A mode in four octal digits. -/
def modeDigits (mode : Nat) : String :=
  let digits := Nat.toDigits 8 mode
  String.ofList (List.replicate (4 - digits.length) '0' ++ digits)

/-- What a mode is told of by. -/
def modeText (mode : Nat) : String := s!"{modeDigits mode} ({rightsLetters mode})"

/-- The paths of a directory and of all that is below it, outermost first. -/
def pathsBelow (tree : Files.Tree) : Nat → Bytes → Files.Place → List (Bytes × Files.Place)
  | 0, path, place => [(path, place)]
  | depth + 1, path, place =>
    (path, place) :: ((tree.namesIn place).mergeSort bytesLe).flatMap fun name =>
      pathsBelow tree depth (path ++ Bytes.slash :: name) (place ++ [name])

/-- What is told of a path whose rights were to be changed. -/
def rightsReport (use : Use) (path : Bytes) (before after : Nat) : Bytes :=
  let start := Bytes.ofString "mode of " ++ shellQuoted path
  if before = after then
    if use.has 'v' then start ++ Bytes.ofString s!" retained as {modeText before}\n" else []
  else if use.hasAny "vc" then
    start ++ Bytes.ofString s!" changed from {modeText before} to {modeText after}\n"
  else []

/-- Changes the rights of a path, and those of all that is below it where that is asked for. A mode
that is given like an option is to be what it would be if no rights were kept. -/
def changeRightsOf (use : Use) (changes : List RightsChange) (isOption : Bool) (mask : Nat)
    (tree : Files.Tree) (directory : Files.Place) (path : Bytes) :
    Except Bytes (Files.Tree × Bytes) :=
  match tree.find directory path with
  | .error cause => .error (cannot "cannot access" path (reason cause))
  | .ok (.free _) => .error (cannot "cannot access" path Errno.noSuchFile.description)
  | .ok (.node place node) =>
    let paths := if use.has 'R' && node = .directory then pathsBelow tree 100 path place
      else [(path, place)]
    paths.foldlM (fun (tree, told) (path, place) =>
      match tree.get? place with
      | some (.link _) => .ok (tree, told)
      | node? =>
        let isDirectory := node? = some .directory
        let before := ((tree.attributes? place).map (·.mode)).getD 0
        let after := RightsChange.applyAll isDirectory mask before changes
        let expected := RightsChange.applyAll isDirectory 0 before changes
        if isOption && after &&& RightsChange.without expected ≠ 0 then
          .error (nameText path ++ Bytes.ofString
            s!": new permissions are {rightsLetters after}, not {rightsLetters expected}")
        else .ok (tree.setMode place after, told ++ rightsReport use path before after))
      (tree, [])

/-- Changes the rights of paths as a mode asks for. -/
def changeModes (use : Use) (mode : Bytes) (isOption : Bool) (paths : List Bytes) :
    Action Nat := do
  match RightsChange.readAll? mode with
  | none =>
    refuseUse (Bytes.ofString "invalid mode: " ++ quotedText mode)
    return 1
  | some changes =>
    let mask := (← get).mask
    if paths.isEmpty then
      refuseUse (Bytes.ofString "missing operand after " ++ quotedText mode)
      return 1
    changeEach paths "missing operand" (changeRightsOf use changes isOption mask)

/-- Whether a word is a mode although it begins with a minus sign. -/
def isModeWord (word : Bytes) : Bool :=
  match word with
  | 0x2D :: letter :: _ => (Bytes.ofString "rwxXstugoa,+=01234567").contains letter
  | _ => false

def chmodOptions : Use.Known :=
  { letters := "Rvcf"
    names := [("recursive", 'R'), ("verbose", 'v'), ("changes", 'c'), ("quiet", 'f'),
      ("silent", 'f')] }

/-- Sets modes of files. The mode is the first operand, or made of words with a minus sign. -/
def chmod (words : List Bytes) : Action Nat := do
  let front := words.takeWhile (· ≠ [0x2D, 0x2D])
  let modes := front.filter isModeWord
  let others := front.filter (!isModeWord ·) ++ words.drop front.length
  withUse chmodOptions 1 (fun use => do
    match modes, use.operands with
    | [], [] =>
      refuseUse (Bytes.ofString "missing operand")
      return 1
    | [], mode :: paths => changeModes use mode false paths
    | modes, paths => changeModes use (Bytes.joinWith 0x2C modes) true paths) others

end Intercept.Shell.Tool
