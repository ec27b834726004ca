import Intercept.Shell.Command
import Intercept.Text.Utf8

/-!
# The text of a program, while it is read

A program is read token by token. The state of the reader is what is left of the text, the line that
it has come to, the last token with what it holds, and the documents that commands have asked for
and whose text begins on the next line. A line that ends in a backslash goes on with the next one.
-/

namespace Intercept.Shell

inductive Token where
  | endOfText
  | newline
  | semicolon
  | ampersand
  | bothSign
  | eitherSign
  | bar
  /-- A bar for the output and the messages together. -/
  | fullBar
  | openParen
  | closeParen
  | caseEnd
  | redirection
  | word
  | keyword (text : String)
  deriving DecidableEq, Repr

namespace Token

/-- The words that have a meaning where a command begins. -/
def keywords : List String :=
  ["!", "case", "do", "done", "elif", "else", "esac", "fi", "for", "if", "in", "then", "until",
    "while", "\x7b", "\x7d"]

/-- The words that have a meaning there in the extended language only. -/
def extendedKeywords : List String := ["[[", "function", "time"]

/-- The keyword of a word. -/
def keyword? (language : Language) (word : Bytes) : Option Token :=
  let known := if language.isExtended then keywords ++ extendedKeywords else keywords
  (known.find? fun text => Bytes.ofString text = word).map keyword

/-- The token as a message shows it. -/
def shown : Token → String
  | endOfText => "end of file"
  | newline => "newline"
  | semicolon => "\";\""
  | ampersand => "\"&\""
  | bothSign => "\"&&\""
  | eitherSign => "\"||\""
  | bar => "\"|\""
  | fullBar => "\"|&\""
  | openParen => "\"(\""
  | closeParen => "\")\""
  | caseEnd => "\";;\""
  | redirection => "redirection"
  | word => "word"
  | keyword text => "\"" ++ text ++ "\""

/-- Whether the token ends the commands before it. -/
def endsCommands : Token → Bool
  | endOfText => true
  | closeParen => true
  | caseEnd => true
  | keyword text => ["do", "done", "elif", "else", "esac", "fi", "then", "\x7d"].contains text
  | _ => false

end Token

/-- Why a text is no program. -/
inductive Flaw where
  /-- A quote that nothing closes. -/
  | openQuote (quote : UInt8)
  | openBackquote
  | openBrace
  | openSum
  /-- A token that has no place here, and the one that has. -/
  | unexpected (token : Token) (wanted : Option Token)
  | badFunctionName
  | badLoopVariable
  | badChannel
  | tooDeep
  deriving DecidableEq, Repr

/-- The token as a message of the extended language shows it. -/
def Token.bareText : Token → String
  | .keyword text => text
  | token => String.ofList (token.shown.toList.filter (· ≠ '"'))

/-- What a shell of the extended language says of a flaw. -/
def Flaw.extendedMessage : Flaw → String
  | openQuote quote =>
    "unexpected EOF while looking for matching `" ++ String.singleton (Bytes.asChar quote) ++ "'"
  | openBackquote => "unexpected EOF while looking for matching ``'"
  | openBrace => "unexpected EOF while looking for matching `\x7d'"
  | openSum => "unexpected EOF while looking for matching `)'"
  | unexpected .endOfText _ => "syntax error: unexpected end of file"
  | unexpected token _ => "syntax error near unexpected token `" ++ token.bareText ++ "'"
  | badFunctionName => "not a valid identifier"
  | badLoopVariable => "not a valid identifier"
  | badChannel => "ambiguous redirect"
  | tooDeep => "nested too deep"

def Flaw.message : Flaw → String
  | openQuote _ => "Unterminated quoted string"
  | openBackquote => "EOF in backquote substitution"
  | openBrace => "Missing '\x7d'"
  | openSum => "Missing '))'"
  | unexpected token none => token.shown ++ " unexpected"
  | unexpected token (some wanted) =>
    token.shown ++ " unexpected (expecting " ++ wanted.shown ++ ")"
  | badFunctionName => "Bad function name"
  | badLoopVariable => "Bad for loop variable"
  | badChannel => "Bad fd number"
  | tooDeep => "nested too deep"

/-- A flaw, and the line on which it was found. -/
structure Refusal where
  line : Nat
  flaw : Flaw
  deriving DecidableEq, Repr

/-- What ends a document: a line of its own, of which tabs at the front may not count. -/
structure EndMark where
  text : Bytes
  strips : Bool
  deriving DecidableEq, Repr

/-- A document whose text is still to be read. In one with a quoted mark nothing is expanded. -/
structure Pending where
  number : Nat
  mark : EndMark
  quoted : Bool
  deriving DecidableEq, Repr

/-- What a redirection asks for, before its word is read. -/
inductive Operator where
  | open (opening : Opening)
  | duplicate
  | document (strips : Bool)
  | text
  /-- The output and the messages together go to a file. -/
  | outputs (opening : Opening)
  deriving DecidableEq, Repr

/-- An alias whose text is being read: the number of bytes behind the text, and whether the text
ends in a blank. -/
structure Expanding where
  name : Bytes
  behind : Nat
  endsInBlank : Bool
  deriving DecidableEq, Repr

structure Source where
  rest : Bytes
  language : Language := .standard
  /-- Whether the lines can be shown as they are read. -/
  isShown : Bool := false
  line : Nat := 1
  aliases : List (Bytes × Bytes) := []
  expanding : List Expanding := []
  /-- The last token, and whether it is still to be taken. -/
  token : Token := .newline
  putBack : Bool := false
  /-- The last word, and whether something in it is quoted. -/
  word : Word := []
  quoted : Bool := false
  /-- The last redirection: its channel and what it asks for. -/
  channel : Nat := 0
  operator : Operator := .duplicate
  pending : List Pending := []
  /-- The documents that have been read, and the number of the next one. -/
  documents : List (Nat × Word) := []
  nextDocument : Nat := 0
  /-- The mark of the document that is being read, and whether its end has been reached. -/
  mark : Option EndMark := none
  ended : Bool := false
  /-- Whether a mark is being read, in which nothing is expanded. -/
  readsMark : Bool := false

/-- A computation that reads a program. -/
abbrev Reader := StateT Source (Except Refusal)

namespace Reader

def refuse {α : Type} (flaw : Flaw) : Reader α := do throw ⟨(← get).line, flaw⟩

/-- The text behind joined lines, and its line. -/
def behindJoined : Bytes → Nat → Bytes × Nat
  | 0x5C :: 0x0A :: rest, line => behindJoined rest (line + 1)
  | rest, line => (rest, line)

/-- The next byte, which is not taken. -/
def next : Reader (Option UInt8) := do
  let s ← get
  if s.ended then return none
  let (rest, line) := behindJoined s.rest s.line
  set { s with rest, line }
  return rest.head?

/-- Takes a byte. -/
def skip : Reader Unit :=
  modify fun s =>
    match s.rest with
    | [] => s
    | b :: rest => { s with rest, line := if b = Bytes.newline then s.line + 1 else s.line }

/-- Takes a byte that does not count as the end of a line. -/
def drop : Reader Unit := modify fun s => { s with rest := s.rest.drop 1 }

/-- Takes the next byte if it is the given one, and tells so. -/
def skipIf (c : Char) : Reader Bool := do
  if (← next) = some c.toUInt8 then
    skip
    return true
  return false

/-- Takes bytes as long as they have a property. -/
def takeWhile (property : UInt8 → Bool) : Nat → Reader Bytes
  | 0 => return []
  | fuel + 1 => do
    match ← next with
    | some b =>
      if property b then
        skip
        return b :: (← takeWhile property fuel)
      return []
    | none => return []

/-- The bytes in front of the text that have a property, of which none is a newline or a
backslash. -/
def takeRun (property : UInt8 → Bool) : Reader Bytes := do
  let s ← get
  let (run, rest) := s.rest.span property
  set { s with rest }
  return run

/-- The text behind a line, if the line is a mark. -/
def behindMark? (mark : EndMark) (text : Bytes) : Option Bytes :=
  let line := if mark.strips then text.dropWhile (· = Bytes.tab) else text
  match Bytes.breakAt Bytes.newline line with
  | (first, rest) => if first = mark.text then some (rest.getD []) else none

/-- At the start of a line of a document: takes the mark that ends the document, or the tabs that do
not count. -/
def beginLine : Reader Unit := do
  let s ← get
  match s.mark with
  | none => return ()
  | some mark =>
    match behindMark? mark s.rest with
    | some rest => set { s with rest, line := s.line + 1, ended := true }
    | none =>
      if mark.strips then set { s with rest := s.rest.dropWhile (· = Bytes.tab) }

/-- The lines of a document in which nothing is expanded. -/
def takeLines (mark : EndMark) : Nat → Bytes → Bytes × Bytes × Nat
  | 0, text => ([], text, 0)
  | fuel + 1, text =>
    match behindMark? mark text with
    | some rest => ([], rest, 1)
    | none =>
      let text := if mark.strips then text.dropWhile (· = Bytes.tab) else text
      match Bytes.breakAt Bytes.newline text with
      | (line, none) => (line, [], 0)
      | (line, some rest) =>
        let (lines, rest, count) := takeLines mark fuel rest
        (line ++ Bytes.newline :: lines, rest, count + 1)

end Reader

end Intercept.Shell
