import Intercept.Shell.Format.Escape
import Intercept.Shell.Quoting
import Intercept.Shell.Real

/-!
# Written out by format

What `echo` and `printf` write: texts with escapes, and a format that is used again and again until
its arguments are spent. The commands of the shell and the tools of the same names differ in what
they know and in what they say.
-/

namespace Intercept.Shell.Format

/-- Whose rules are followed. -/
inductive Dialect where
  | shell
  /-- A shell of the extended language. -/
  | extended
  | tool
  deriving DecidableEq, Repr

/-- What stands behind a backslash in a text that is written with escapes. -/
def textEscape (dialect : Dialect) (text : Bytes) : Escape × Bytes :=
  match dialect, text with
  | .tool, _ => toolEscape true text
  | .extended, _ => extendedEscape .argument text
  | .shell, 0x63 :: _ => (.stop, [])
  | .shell, 0x30 :: rest =>
    shellEscape (if rest.head?.any (digitValue · < 8) then rest else text)
  | .shell, _ => shellEscape text

/-- A text with its escapes carried out, and what ended it if something did. -/
def escaped (dialect : Dialect) (text : Bytes) : Bytes × Option Escape :=
  unescape (textEscape dialect) (text.length + 1) text

/-- What the `echo` of the shell writes. -/
def echo (arguments : List Bytes) : Bytes :=
  let (endless, words) := match arguments with
    | [0x2D, 0x6E] :: rest => (true, rest)
    | _ => (false, arguments)
  let (written, ended) := escaped .shell (Bytes.joinWith Bytes.space words)
  if endless || ended.isSome then written else written ++ [Bytes.newline]

/-- What the `echo` writes that has options: `n` for no end of the line, `e` for escapes, `E` for
none. The first word that is no row of these letters is the first to be written. -/
def echoWithOptions (escape : Bytes → Escape × Bytes) (arguments : List Bytes)
    (carriesOut endless : Bool := false) : Bytes :=
  let write (words : List Bytes) : Bytes :=
    let text := Bytes.joinWith Bytes.space words
    let (written, ended) :=
      if carriesOut then unescape escape (text.length + 1) text else (text, none)
    if endless || ended.isSome then written else written ++ [Bytes.newline]
  match arguments with
  | (0x2D :: letter :: letters) :: rest =>
    let options := letter :: letters
    if options.all (Bytes.ofString "neE").contains then
      let last := (options.filter (· ≠ 0x6E)).getLast?
      let carriesOut := last.elim carriesOut (· = 0x65)
      echoWithOptions escape rest carriesOut (endless || options.contains 0x6E)
    else write arguments
  | _ => write arguments

/-- How one argument is written. -/
structure Directive where
  flags : Bytes := []
  width : Nat := 0
  precision : Option Nat := none
  deriving Repr

namespace Directive

def has (d : Directive) (flag : Char) : Bool := d.flags.contains flag.toUInt8

/-- Fills a text up to the width, with zeros behind the sign if that is asked for and fits. -/
def pad (d : Directive) (zeros : Bool) (sign text : Bytes) : Bytes :=
  let missing := d.width - (sign.length + text.length)
  if d.has '-' then sign ++ text ++ List.replicate missing Bytes.space
  else if zeros && d.has '0' then sign ++ List.replicate missing 0x30 ++ text
  else List.replicate missing Bytes.space ++ sign ++ text

/-- The sign of a number. -/
def sign (d : Directive) (negative : Bool) : Bytes :=
  if negative then [0x2D] else if d.has '+' then [0x2B] else if d.has ' ' then [0x20] else []

/-- The digits of a number, as many at least as the precision asks for. -/
def digits (d : Directive) (base : Nat) (n : Nat) : Bytes :=
  let own := if n = 0 && d.precision = some 0 then [] else Bytes.ofChars (Nat.toDigits base n)
  List.replicate (d.precision.getD 0 - own.length) 0x30 ++ own

/-- A number with a sign. -/
def signed (d : Directive) (n : Int) : Bytes :=
  d.pad d.precision.isNone (d.sign (n < 0)) (d.digits 10 n.natAbs)

/-- A number without a sign, in the base that a letter asks for. -/
def unsigned (d : Directive) (letter : Char) (n : Nat) : Bytes :=
  let zeros := d.precision.isNone
  let mark (text : String) : Bytes := if d.has '#' && n ≠ 0 then Bytes.ofString text else []
  match letter with
  | 'o' =>
    let own := d.digits 8 n
    d.pad zeros [] (if d.has '#' && own.head? ≠ some 0x30 then 0x30 :: own else own)
  | 'x' => d.pad zeros (mark "0x") (d.digits 16 n)
  | 'X' => d.pad zeros (mark "0X") (capitals (d.digits 16 n))
  | _ => d.pad zeros [] (d.digits 10 n)
where
  /-- The bytes with capital letters for small ones. -/
  capitals (bytes : Bytes) : Bytes :=
    bytes.map fun b => if 0x61 ≤ b && b ≤ 0x7A then b - 0x20 else b

/-- A number with a point, in the form that a letter asks for. -/
def real (d : Directive) (form : BinaryForm) (letter : Char) (value : Real) : Bytes :=
  let places := d.precision.getD 6
  let keeps := d.has '#'
  let shown (text : Bytes) : Bytes := if letter.isUpper then unsigned.capitals text else text
  let sign := d.sign value.isNegative
  match value with
  | .finite _ m e =>
    let text := match letter.toLower with
      | 'e' => Real.scientific places keeps m e
      | 'f' => Real.fixed places keeps m e
      | 'a' => Real.hexadecimal form d.precision keeps m e
      | _ => Real.general places keeps m e
    if letter.toLower = 'a' then d.pad true (sign ++ shown (text.take 2)) (shown (text.drop 2))
    else d.pad true sign (shown text)
  | .infinite _ => d.pad false sign (shown (Bytes.ofString "inf"))
  | .notANumber _ => d.pad false sign (shown (Bytes.ofString "nan"))

end Directive

/-- What is being written: the text so far, the arguments that are left, and whether all went
well. -/
structure Printing where
  written : Bytes := []
  arguments : List Bytes := []
  status : Nat := 0
  /-- Nothing more is to be written. -/
  isOver : Bool := false

abbrev Printer := StateT Printing Action

/-- Bytes that have a meaning for a shell of the extended language, wherever they stand. -/
def hasMeaning (b : UInt8) : Bool := (Bytes.ofString " \t'\"\\|&;()<>!\x7b\x7d*[?]^$`,").contains b

/-- A word as a shell of the extended language would read it, with a backslash in front of each byte
that has a meaning. -/
def escapedWord (word : Bytes) : Bytes :=
  if word.isEmpty then [0x27, 0x27]
  else if !word.all fun b => isPrintable b || b = Bytes.tab then
    let own (b : UInt8) : Bytes :=
      if b = 0x27 || b = 0x5C then [0x5C, b] else if isPrintable b then [b] else visibleEscape b
    [0x24, 0x27] ++ word.flatMap own ++ [0x27]
  else
    let own (b : UInt8) (isFirst : Bool) : Bytes :=
      if hasMeaning b || (isFirst && (b = 0x23 || b = 0x7E)) then [0x5C, b] else [b]
    own (word.headD 0) true ++ (word.drop 1).flatMap (own · false)

namespace Printer

def emit (bytes : Bytes) : Printer Unit := modify fun s => { s with written := s.written ++ bytes }

def stop : Printer Unit := modify ({ · with isOver := true })

/-- Writes a message. The tool writes first what it has to write before. -/
def warn (dialect : Dialect) (message : Bytes) : Printer Unit := do
  match dialect with
  | .shell | .extended => Action.complain message
  | .tool =>
    let s ← get
    set { s with written := [] }
    let _ ← Action.write 1 s.written
    Action.tell ((← getThe Process).name ++ Bytes.ofString ": " ++ message)

/-- Writes a message that is about an argument. -/
def warnAbout (dialect : Dialect) (argument : Bytes) (forShell forTool : String) :
    Printer Unit := do
  let message := match dialect with
    | .shell => Action.about argument forShell
    | .extended => Action.about argument "invalid number"
    | .tool => Action.about (quotedText argument) forTool
  warn dialect message
  modify ({ · with status := 1 })

/-- Ends the writing with a message. -/
def giveUp (dialect : Dialect) (message : Bytes) : Printer Unit := do
  warn dialect message
  modify ({ · with status := if dialect = .shell then 2 else 1, isOver := true })

/-- The next argument, if there is one. -/
def next : Printer (Option Bytes) := do
  let s ← get
  set { s with arguments := s.arguments.drop 1 }
  return s.arguments.head?

/-- The number of the character behind a quote. -/
def character? (dialect : Dialect) (argument : Bytes) : Printer (Option Nat) := do
  match dialect, argument with
  | .shell, quote :: rest | .extended, quote :: rest =>
    if quote = 0x27 || quote = 0x22 then return some (rest.headD 0).toNat else return none
  | .tool, quote :: b :: rest =>
    if quote = 0x27 || quote = 0x22 then
      if !rest.isEmpty then
        warn dialect (Action.of "warning" (Action.about rest
          "character(s) following character constant have been ignored"))
      return some b.toNat
    else return none
  | _, _ => return none

/-- Says what is wrong with an argument that is not quite a number. -/
def checkNumber (dialect : Dialect) (argument : Bytes) (rest : Option Bytes) (inRange : Bool) :
    Printer Unit := do
  match rest with
  | none => warnAbout dialect argument "expected numeric value" "expected a numeric value"
  | some rest =>
    let tooGreat := Errno.outOfRange.description
    if dialect = .tool && !inRange then warnAbout dialect argument tooGreat tooGreat
    else if !rest.isEmpty then
      warnAbout dialect argument "not completely converted" "value not completely converted"
    else if !inRange then warnAbout dialect argument tooGreat tooGreat

/-- The number that an argument stands for, kept within bounds. -/
def integer (dialect : Dialect) (low high : Int) (argument : Bytes) : Printer Int := do
  if argument.isEmpty then return 0
  if let some n ← character? dialect argument then return n
  match readInteger argument with
  | none =>
    checkNumber dialect argument none true
    return 0
  | some (n, rest) =>
    checkNumber dialect argument (some rest) (low ≤ n && n ≤ high)
    return max low (min high n)

/-- The number with a sign that the next argument stands for. -/
def nextSigned (dialect : Dialect) : Printer Int := do
  integer dialect least greatest ((← next).getD [])

/-- The number without a sign that the next argument stands for; a negative one is counted from the
greatest. -/
def nextUnsigned (dialect : Dialect) : Printer Nat := do
  let widest : Int := 0xFFFFFFFFFFFFFFFF
  let n ← integer dialect (-widest) widest ((← next).getD [])
  return (BitVec.ofInt 64 n).toNat

/-- The number with a point that the next argument stands for. -/
def nextReal (dialect : Dialect) (form : BinaryForm) : Printer Real := do
  let argument := (← next).getD []
  if argument.isEmpty then return Real.zero
  if let some n ← character? dialect argument then return (Real.ofQuotient form false n 1).1
  match Real.read form argument with
  | none =>
    checkNumber dialect argument none true
    return Real.zero
  | some (value, inRange, rest) =>
    checkNumber dialect argument (some rest) inRange
    return value

/-- Writes a text with its escapes carried out. -/
def emitEscaped (dialect : Dialect) (shape : Bytes → Bytes) (text : Bytes) : Printer Unit := do
  let (written, ended) := escaped dialect text
  emit (shape written)
  match ended with
  | some (.flawed message) => giveUp dialect (Bytes.ofString message)
  | some _ => stop
  | none => return ()

/-- A number at the front, or one taken from an argument behind a star. -/
def count (dialect : Dialect) (text : Bytes) : Printer (Option Int × Bytes) := do
  match text with
  | 0x2A :: rest => return (some (← nextSigned dialect), rest)
  | _ =>
    let (digits, rest) := text.span isDigit
    return (if digits.isEmpty then none else some (decimal digits : Int), rest)

/-- A width and a precision, with flags in front of them, and what is behind. -/
def directive (dialect : Dialect) (text : Bytes) : Printer (Directive × Bytes) := do
  let known := if dialect = .tool then "#-+ 0'I" else "#-+ 0"
  let (flags, rest) := text.span (Bytes.ofString known).contains
  let (width, rest) ← count dialect rest
  let (precision, rest) ← match rest with
    | 0x2E :: rest => do
      let (n, rest) ← count dialect rest
      pure (some (n.getD 0), rest)
    | _ => pure (none, rest)
  let tooGreat (n : Option Int) : Bool := n.any fun n => n.natAbs > 2147483647
  if dialect = .tool && (tooGreat width || tooGreat precision) then
    let (what, n) := if tooGreat width then ("field width", width) else ("precision", precision)
    giveUp dialect (Action.of s!"invalid {what}" (quotedText (integerText (n.getD 0))))
  let d : Directive :=
    { flags := if width.any (· < 0) then 0x2D :: flags else flags
      width := (width.getD 0).natAbs
      precision := precision.bind fun n => if n < 0 then none else some n.toNat }
  return (d, rest)

/-- Whether the tool knows a letter together with what stands in front of it. -/
def isKnownToTool (d : Directive) (hasPrecision : Bool) (letter : Char) : Bool :=
  "diouxXaAeEfFgGcs".toList.contains letter &&
    !((d.has '\'' || d.has 'I') && "aAceEosxX".toList.contains letter) &&
    !(d.has '#' && "cdisu".toList.contains letter) &&
    !(d.has '0' && "cs".toList.contains letter) &&
    !(hasPrecision && letter = 'c')

/-- Writes the next argument as a directive says. -/
def emitArgument (dialect : Dialect) (d : Directive) (letter : Char) : Printer Unit := do
  let form := if dialect = .tool then BinaryForm.extended else .double
  let cut (text : Bytes) : Bytes := d.pad false [] (d.precision.elim text text.take)
  match letter with
  | 's' => emit (cut ((← next).getD []))
  | 'b' => emitEscaped dialect cut ((← next).getD [])
  | 'c' => emit (d.pad false [] [((← next).getD []).headD 0])
  | 'd' | 'i' => emit (d.signed (← nextSigned dialect))
  | 'o' | 'u' | 'x' | 'X' => emit (d.unsigned letter (← nextUnsigned dialect))
  | _ => emit (d.real form letter (← nextReal dialect form))

/-- Carries out what stands behind a percent sign in a format, and gives what is behind that. -/
def behindPercent (dialect : Dialect) (text : Bytes) : Printer Bytes := do
  match dialect, text with
  | _, 0x25 :: rest =>
    emit [0x25]
    return rest
  | .tool, 0x62 :: rest =>
    emitEscaped dialect id ((← next).getD [])
    return rest
  | .tool, 0x71 :: rest =>
    emit (((← next).map shellText).getD [])
    return rest
  | .extended, 0x71 :: rest =>
    emit (escapedWord ((← next).getD []))
    return rest
  | _, _ =>
    let (d, rest) ← directive dialect text
    if (← get).isOver then return []
    let front := text.take (text.length - rest.length)
    let letters :=
      if dialect = .shell then rest else rest.dropWhile (Bytes.ofString "hlLjzt").contains
    match letters with
    | [] =>
      match dialect with
      | .shell => giveUp dialect (Bytes.ofString "missing format character")
      | .extended =>
        giveUp dialect (0x60 :: 0x25 :: text ++ Bytes.ofString "': missing format character")
      | .tool =>
        giveUp dialect (Action.about (0x25 :: text) "invalid conversion specification")
      return []
    | b :: rest =>
      let letter := Bytes.asChar b
      let whole := 0x25 :: text.take (text.length - rest.length)
      match dialect with
      | .shell =>
        if "bcsdiouxXaAeEfFgG".toList.contains letter then emitArgument dialect d letter
        else giveUp dialect (Action.about whole "invalid directive")
      | .extended =>
        if "bcsdiouxXaAeEfFgG".toList.contains letter then emitArgument dialect d letter
        else giveUp dialect (0x60 :: b :: Bytes.ofString "': invalid format character")
      | .tool =>
        if isKnownToTool d (front.contains 0x2E) letter then emitArgument dialect d letter
        else giveUp dialect (Action.about whole "invalid conversion specification")
      return rest

/-- Uses the format once. -/
def useOnce (dialect : Dialect) : Nat → Bytes → Printer Unit
  | 0, _ => return ()
  | _, [] => return ()
  | fuel + 1, b :: rest => do
    if (← get).isOver then return ()
    if b = 0x5C then
      let escape := match dialect with
        | .shell => shellEscape
        | .extended => extendedEscape .format
        | .tool => toolEscape false
      match escape rest with
      | (.text bytes, rest) =>
        emit bytes
        useOnce dialect fuel rest
      | (.stop, _) => stop
      | (.flawed message, _) => giveUp dialect (Bytes.ofString message)
    else if b = 0x25 then useOnce dialect fuel (← behindPercent dialect rest)
    else
      emit [b]
      useOnce dialect fuel rest

/-- Uses the format until the arguments are spent; the first argument bounds the number of uses. -/
def useAgain (dialect : Dialect) (format : Bytes) : Nat → Printer Unit
  | 0 => return ()
  | fuel + 1 => do
    let before := (← get).arguments
    useOnce dialect (format.length + 1) format
    let s ← get
    if s.isOver || s.arguments.isEmpty then return ()
    if s.arguments.length < before.length then useAgain dialect format fuel
    else if dialect = .tool then
      warn dialect (Bytes.ofString "warning: ignoring excess arguments, starting with " ++
        quotedText (s.arguments.headD []))

end Printer

/-- What is written by a format, and a status that tells whether all went well. -/
def printf (dialect : Dialect) (format : Bytes) (arguments : List Bytes) : Action Answer := do
  let (_, s) ← (Printer.useAgain dialect format (arguments.length + 1)).run { arguments }
  return { output := s.written, status := s.status }

end Intercept.Shell.Format
