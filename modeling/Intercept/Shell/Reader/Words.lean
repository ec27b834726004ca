import Intercept.Shell.Format.Escape
import Intercept.Shell.Reader.Source

/-!
# Reading words

Which bytes have a meaning depends on where they stand: outside quotes, between quotes, in the
braces of an expansion, in a document, or in a sum. The reader of a word is given the reader of the
commands that a word may hold.
-/

namespace Intercept.Shell

/-- Where parts are read. -/
inductive Mode where
  /-- In a word, outside quotes. -/
  | word
  /-- In a word, between quotes. -/
  | quotes
  /-- In braces, outside quotes. -/
  | braces
  /-- Between quotes that stand in braces. -/
  | innerQuotes
  /-- In braces that stand between quotes. -/
  | quotedBraces
  /-- In the text of a document. -/
  | document
  /-- In a sum, with so many parentheses open. -/
  | sum (depth : Nat)
  /-- In an expression that a text is compared with, up to the next blank. -/
  | expression
  deriving DecidableEq, Repr

namespace Mode

/-- Whether bytes stand for themselves here as they do between quotes. -/
def isQuoted : Mode → Bool
  | word => false
  | braces => false
  | expression => false
  | _ => true

/-- Whether the mode lies in braces. -/
def isBraced : Mode → Bool
  | braces => true
  | innerQuotes => true
  | quotedBraces => true
  | _ => false

/-- Bytes that end a word outside quotes. -/
def isMeta (b : UInt8) : Bool :=
  isBlank b || b = Bytes.newline || (Bytes.ofString ";&|<>()").contains b

def endsAt (mode : Mode) (b : UInt8) : Bool :=
  match mode with
  | word => isMeta b
  | expression => isBlank b || b = Bytes.newline
  | quotes => b = Bytes.quote
  | innerQuotes => b = Bytes.quote
  | braces => b = 0x7D
  | quotedBraces => b = 0x7D
  | _ => false

/-- Whether a byte stands for itself, whatever follows. -/
def isOrdinary (mode : Mode) (b : UInt8) : Bool :=
  match mode with
  | word => !isMeta b && !(Bytes.ofString "\\'\"`$").contains b
  | expression => !isBlank b && !(Bytes.ofString "\\'\"`$\n").contains b
  | braces => !(Bytes.ofString "\\'\"`$\x7d\n").contains b
  | document => !(Bytes.ofString "\\`$\n").contains b
  | sum _ => !(Bytes.ofString "\\`$()\n").contains b
  | _ => !(Bytes.ofString "\\\"`$\x7d\n").contains b

/-- Whether a backslash takes away the meaning of a byte. -/
def escapes (mode : Mode) (inDocument : Bool) (b : UInt8) : Bool :=
  !mode.isQuoted || (Bytes.ofString "\\`$").contains b ||
    (b = Bytes.quote && !(inDocument && !mode.isBraced)) || (b = 0x7D && mode.isBraced)

/-- What is missing where the text ends in this mode. -/
def missing? (mode : Mode) (inDocument : Bool) : Option Flaw :=
  match mode with
  | word => none
  | expression => none
  | document => none
  | sum _ => some .openSum
  | braces => some .openBrace
  | _ => some (if inDocument then .openBrace else .openQuote Bytes.quote)

/-- The mode in the braces of an expansion that stands here. -/
def inBraces (mode : Mode) : Mode := if mode.isQuoted then quotedBraces else braces

end Mode

/-- Parameters that are named by one byte. -/
def isSpecial (b : UInt8) : Bool := (Bytes.ofString "@*#?-$!").contains b

/-- What follows the name of a parameter in braces. -/
inductive Rule where
  /-- The closing brace. -/
  | none
  /-- Something that is read and left out. -/
  | ignored
  | alternative (orEmpty : Bool) (rule : Alternative)
  | trim (trim : Trim)
  /-- Numbers that say which bytes of a value are meant. -/
  | slice
  | replace (rule : Replacing)
  | recase (capital all : Bool)
  /-- A change of all of a value that a letter stands for. -/
  | transform (letter : UInt8)
  | senseless

/-- The readers of commands that a word needs. -/
structure CommandReaders where
  /-- The commands up to a closing parenthesis, which is taken. -/
  parenthesized : Reader Command
  /-- The commands of a text. -/
  wholeText : Reader Command

namespace Reader

/-- The bytes up to a single quote, which is taken. -/
def takeSingle (inDocument : Bool) : Reader Bytes := do
  let s ← get
  match Bytes.breakAt 0x27 s.rest with
  | (text, some rest) =>
    set { s with rest, line := s.line + text.count Bytes.newline }
    return text
  | (text, none) =>
    set { s with rest := [], line := s.line + text.count Bytes.newline }
    refuse (if inDocument then .openBrace else .openQuote 0x27)

/-- The text up to a backquote, without the backslashes that protect bytes in it. -/
def takeBackquoted (quoted : Bool) : Nat → Reader Bytes
  | 0 => refuse .tooDeep
  | fuel + 1 => do
    match ← next with
    | none => refuse .openBackquote
    | some 0x60 =>
      skip
      return []
    | some 0x5C =>
      skip
      match (← get).rest with
      | [] => refuse .openBackquote
      | c :: _ =>
        skip
        let freed := (Bytes.ofString "\\`$").contains c || (quoted && c = Bytes.quote)
        let text ← takeBackquoted quoted fuel
        return if freed then c :: text else 0x5C :: c :: text
    | some b =>
      skip
      return b :: (← takeBackquoted quoted fuel)

/-- The commands of a text of its own, which has lines of its own. -/
def commandsOf (readers : CommandReaders) (text : Bytes) : Reader Command := do
  let outer ← get
  set { outer with
    rest := text, line := 1, expanding := [], putBack := false, pending := [], mark := none,
    ended := false, readsMark := false }
  let body ← readers.wholeText
  let inner ← get
  set { outer with documents := inner.documents, nextDocument := inner.nextDocument }
  return body

/-- The commands behind a dollar sign and a parenthesis. -/
def commandsInParens (readers : CommandReaders) : Reader Command := do
  let outer ← get
  set { outer with pending := [], mark := none, ended := false }
  let body ← readers.parenthesized
  modify fun s => { s with pending := outer.pending, mark := outer.mark }
  return body

/-- The bytes up to a single quote that no backslash stands before; it is taken. -/
def takeEscaped : Nat → Reader Bytes
  | 0 => refuse .tooDeep
  | fuel + 1 => do
    match (← get).rest with
    | [] => refuse (.openQuote 0x27)
    | 0x27 :: _ =>
      skip
      return []
    | 0x5C :: c :: _ =>
      skip
      skip
      return 0x5C :: c :: (← takeEscaped fuel)
    | b :: _ =>
      skip
      return b :: (← takeEscaped fuel)

/-- Takes a byte at the front that says which stretches are replaced. -/
def takeReplacing : Reader Replacing := do
  if ← skipIf '/' then return .all
  if ← skipIf '#' then return .atFront
  if ← skipIf '%' then return .atEnd
  return .first

/-- The rule behind the name of a parameter in braces. -/
def takeRule : Reader Rule := do
  let isExtended := (← get).language.isExtended
  let alternative (orEmpty : Bool) (b : UInt8) : Rule :=
    match Bytes.asChar b with
    | '-' => .alternative orEmpty .default
    | '+' => .alternative orEmpty .replace
    | '?' => .alternative orEmpty .complain
    | '=' => .alternative orEmpty .assign
    | '\x7d' => if orEmpty then .ignored else .none
    | _ => .senseless
  match ← next with
  | none => return .senseless
  | some b =>
    drop
    match Bytes.asChar b with
    | ':' =>
      match ← next with
      | none => return .senseless
      | some b =>
        if isExtended && !(Bytes.ofString "-+?=").contains b then return .slice
        drop
        return alternative true b
    | '%' => return .trim ⟨true, ← skipIf '%'⟩
    | '#' => return .trim ⟨false, ← skipIf '#'⟩
    | '/' => if isExtended then return .replace (← takeReplacing) else return .senseless
    | '^' => if isExtended then return .recase true (← skipIf '^') else return .senseless
    | ',' => if isExtended then return .recase false (← skipIf ',') else return .senseless
    | '@' =>
      match ← next with
      | some letter =>
        if !isExtended || !(Bytes.ofString "QULu").contains letter then return .senseless
        drop
        return .transform letter
      | none => return .senseless
    | _ => return alternative false b

/-- A name, a number or a sign that names a parameter in braces. -/
def takeParameter : Reader (Option Bytes) := do
  let bound := (← get).rest.length
  match ← next with
  | none => return none
  | some b =>
    if isNameStart b then return some (← takeWhile isNameByte bound)
    else if isDigit b then return some (← takeWhile isDigit bound)
    else if isSpecial b then
      skip
      return some [b]
    else return none

mutual

/-- The parts up to the end of a mode. What ends it is taken, unless it is the end of a word. -/
def readParts (readers : CommandReaders) : Nat → Mode → Reader Word
  | 0, _ => refuse .tooDeep
  | fuel + 1, mode => do
    match ← next with
    | none =>
      match mode.missing? (← get).mark.isSome with
      | some flaw => refuse flaw
      | none => return []
    | some b =>
      if mode.endsAt b then
        if mode ≠ .word && mode ≠ .expression then skip
        return []
      else if mode = .sum 0 ∧ b = 0x29 then
        skip
        if ← skipIf ')' then return []
        return consPart (.plain [b]) (← readParts readers fuel mode)
      else
        let part ← readPart readers fuel mode b
        let behind : Mode :=
          match mode, Bytes.asChar b with
          | .sum depth, '(' => .sum (depth + 1)
          | .sum depth, ')' => .sum (depth - 1)
          | _, _ => mode
        return consPart part (← readParts readers fuel behind)

/-- The part that begins with a byte. -/
def readPart (readers : CommandReaders) : Nat → Mode → UInt8 → Reader Part
  | 0, _, _ => refuse .tooDeep
  | fuel + 1, mode, b => do
    if mode.isOrdinary b then return .plain (← takeRun mode.isOrdinary)
    let s ← get
    skip
    match Bytes.asChar b with
    | '\n' =>
      beginLine
      return .plain [b]
    | '\\' =>
      match (← get).rest with
      | [] => return .literal [b]
      | c :: _ =>
        skip
        return .literal (if mode.escapes s.mark.isSome c then [c] else [b, c])
    | '\'' =>
      if mode.isQuoted then return .plain [b]
      else return .literal (← takeSingle s.mark.isSome)
    | '"' =>
      return .quoted (← readParts readers fuel (if mode.isBraced then .innerQuotes else .quotes))
    | '`' =>
      if s.readsMark then return .literal [b]
      let text ← takeBackquoted mode.isQuoted (s.rest.length + 1)
      return .substitution (← commandsOf readers text)
    | '$' =>
      if s.readsMark then return .plain [b]
      readDollar readers fuel mode
    | _ => return .plain [b]

/-- The expansion behind a dollar sign, or the sign itself. -/
def readDollar (readers : CommandReaders) : Nat → Mode → Reader Part
  | 0, _ => refuse .tooDeep
  | fuel + 1, mode => do
    match ← next with
    | none => return .plain [0x24]
    | some b =>
      match Bytes.asChar b with
      | '(' =>
        skip
        if ← skipIf '(' then return .arithmetic (← readParts readers fuel (.sum 0))
        return .substitution (← commandsInParens readers)
      | '\x7b' =>
        skip
        readBraces readers fuel mode
      | '\'' =>
        let s ← get
        if mode.isQuoted || !s.language.isExtended then return .plain [0x24]
        skip
        let text ← takeEscaped (s.rest.length + 1)
        let (written, _) := Format.unescape (Format.extendedEscape .quotes) (text.length + 1) text
        return .literal (written.takeWhile (· ≠ 0))
      | '"' =>
        if mode.isQuoted || !(← get).language.isExtended then return .plain [0x24]
        readPart readers fuel mode b
      | _ =>
        if isNameStart b then return .parameter (← takeWhile isNameByte (← get).rest.length)
        else if isSpecial b || isDigit b then
          skip
          return .parameter [b]
        else return .plain [0x24]

/-- The expansion behind an opening brace. -/
def readBraces (readers : CommandReaders) : Nat → Mode → Reader Part
  | 0, _ => refuse .tooDeep
  | fuel + 1, mode => do
    let start ← get
    let flawed : Reader Part := do
      let text := start.rest.take (start.rest.length - (← get).rest.length)
      return .senseless (Bytes.ofString "$\x7b" ++ text)
    let senseless : Reader Part := do
      let _ ← readParts readers fuel mode.inBraces
      flawed
    let ruled (name : Bytes) : Reader Part := do
      match ← takeRule with
      | .none => return .parameter name
      | .ignored =>
        let _ ← readParts readers fuel mode.inBraces
        return .parameter name
      | .alternative orEmpty rule =>
        return .alternative name orEmpty rule (← readParts readers fuel mode.inBraces)
      | .trim trim => return .trimmed name trim (← readParts readers fuel .braces)
      | .slice =>
        match Word.cutAt 0x3A (← readParts readers fuel mode.inBraces) with
        | ([], none) => flawed
        | (first, length) => return .slice name first length
      | .replace rule =>
        let (pattern, text) := Word.cutAt Bytes.slash (← readParts readers fuel .braces)
        return .replaced name rule pattern (text.getD [])
      | .recase capital all =>
        return .recased name capital all (← readParts readers fuel .braces)
      | .transform letter =>
        if !(← readParts readers fuel mode.inBraces).isEmpty then return ← flawed
        match Bytes.asChar letter with
        | 'Q' => return .reusable name
        | 'U' => return .recased name true true []
        | 'L' => return .recased name false true []
        | _ => return .recased name true false []
      | .senseless => senseless
    match ← takeParameter with
    | none =>
      if (← next).any (· ≠ 0x7D) then drop
      senseless
    | some [0x21] =>
      let isName := (← next).any isNameStart
      if !isName || !start.language.isExtended then ruled [0x21]
      else
        let name := (← takeParameter).getD []
        if ← skipIf '\x7d' then return .indirect name else senseless
    | some [0x23] =>
      let start ← get
      match ← next with
      | none => senseless
      | some 0x7D => ruled [0x23]
      | some b =>
        if isNameByte b then
          match ← takeParameter with
          | some name => if ← skipIf '\x7d' then return .length name else senseless
          | none => senseless
        else
          skip
          if (← next) = some 0x7D then
            if isSpecial b then
              skip
              return .length [b]
            else senseless
          else
            set start
            ruled [0x23]
    | some name => ruled name

end

end Reader

end Intercept.Shell
