import Intercept.Shell.Reader.Words

/-!
# Reading commands

Commands are read token by token. A word that stands where a command begins may be a keyword, or an
alias, in whose place its text is read. A program is read line by line, so that a line is carried
out before the next one is read.
-/

namespace Intercept.Shell

/-- What a token may be, apart from what it always is. -/
structure Checks where
  /-- Newlines in front of the token do not count. -/
  newlines : Bool := false
  keywords : Bool := false
  aliases : Bool := false

/-- Where a command may begin. -/
def Checks.command : Checks := { keywords := true, aliases := true }

/-- Where a command may begin on a later line. -/
def Checks.laterCommand : Checks := { newlines := true, keywords := true, aliases := true }

/-- How far a row of commands goes. -/
inductive Extent where
  | line
  /-- At least one command. -/
  | body
  | anything
  deriving DecidableEq, Repr

/-- Commands that no function can be named like. -/
def specialCommands : List String :=
  [".", ":", "break", "continue", "eval", "exec", "exit", "export", "local", "readonly", "return",
    "set", "shift", "times", "trap", "unset"]

/-- Whether a function can have the name. In the extended language a name is any word that nothing
is quoted or expanded in. -/
def isFunctionName (language : Language) (name : Bytes) : Bool :=
  if language.isExtended then !name.isEmpty
  else isName name && !(specialCommands.map Bytes.ofString).contains name

/-- The signs of the conditions between double brackets that stand between two words. -/
def checkOperators : List Bytes :=
  ["=", "==", "!=", "=~", "-eq", "-ne", "-ge", "-gt", "-le", "-lt", "-nt", "-ot", "-ef"].map
    Bytes.ofString

/-- The letters behind a minus sign that ask something of one word there. -/
def checkLetters : List Char := "abcdefghknoprstuvwxzGLNOS".toList

namespace Reader

/-- Refuses the last token. -/
def unexpected {α : Type} (wanted : Option Token) : Reader α := do
  refuse (.unexpected (← get).token wanted)

def putBack : Reader Unit := modify ({ · with putBack := true })

/-- What a redirection asks for, by the signs behind its number. -/
def takeOperator (output : Bool) : Reader Operator := do
  skip
  if output then
    if ← skipIf '>' then return .open .append
    if ← skipIf '|' then return .open .overwrite
    if ← skipIf '&' then return .duplicate
    return .open .write
  else
    if ← skipIf '<' then
      if (← get).language.isExtended then
        if ← skipIf '<' then return .text
      return .document (← skipIf '-')
    if ← skipIf '&' then return .duplicate
    if ← skipIf '>' then return .open .both
    return .open .read

/-- Whether the signs of a redirection stand behind an ampersand. -/
def isBehindAmpersand : Reader Bool := do
  return (← get).language.isExtended && (← next) = some 0x3E

/-- The alias of a word, unless its text is being read. -/
def aliasOf? (word : Bytes) : Reader (Option Bytes) := do
  let s ← get
  let busy := s.expanding.any fun e => e.name = word && e.behind ≤ s.rest.length
  return if busy then none else s.aliases.lookup word

/-- Puts the text of an alias in front of the text. -/
def pushAlias (name text : Bytes) : Reader Unit :=
  modify fun s =>
    let entry : Expanding :=
      { name, behind := s.rest.length, endsInBlank := text.getLast?.any isBlank }
    { s with rest := text ++ s.rest, expanding := entry :: s.expanding }

/-- Forgets the aliases whose text is behind, and tells whether one of them ends in a blank. -/
def leaveAliases (before : Nat) : Reader Bool := do
  let s ← get
  let (behind, still) := s.expanding.partition fun e => s.rest.length < e.behind
  set { s with expanding := still }
  return behind.any fun e => e.endsInBlank && e.behind ≤ before

/-- The number of bytes up to the parenthesis that closes one which is open. -/
def closingAt? : Nat → Bytes → Option Nat
  | _, [] => none
  | depth, b :: rest =>
    let behind (depth : Nat) : Option Nat := (closingAt? depth rest).map (· + 1)
    if b = 0x28 then behind (depth + 1)
    else if b = 0x29 then if depth = 0 then some 0 else behind (depth - 1)
    else behind depth

/-- Whether a second opening parenthesis follows the one that was taken, and both are closed
together: then a sum stands between them. -/
def isSumAhead : Reader Bool := do
  let s ← get
  match s.language, s.rest with
  | .extended, 0x28 :: rest =>
    return (closingAt? 0 rest).any fun length => rest[length + 1]? = some 0x29
  | _, _ => return false

/-- A token that has nothing to hold. -/
def found (token : Token) : Reader Token := do
  modify ({ · with token, quoted := false })
  return token

/-- The channel that a word in front of the signs of a redirection names. No word leaves the channel
to the signs. -/
def channelOf? (language : Language) : Word → Option (Option Nat)
  | [] => some none
  | [.plain digits] =>
    if digits.length = 1 || language.isExtended then (number? digits).map some else none
  | _ => none

/-- A word, or a redirection with the number in front of its signs. -/
def readWord (readers : CommandReaders) (fuel : Nat) : Reader Token := do
  let { language, .. } ← get
  let word ← readParts readers fuel .word
  let after ← next
  match channelOf? language word, after with
  | some channel, some 0x3E =>
    let operator ← takeOperator true
    modify ({ · with operator, channel := channel.getD 1 })
    found .redirection
  | some channel, some 0x3C =>
    let operator ← takeOperator false
    modify ({ · with operator, channel := channel.getD 0 })
    found .redirection
  | _, _ =>
    modify ({ · with token := .word, word, quoted := word.any Part.isQuoted })
    return .word

mutual

/-- The next token, whatever it is. -/
def readRaw : Nat → Reader Token
  | 0 => refuse .tooDeep
  | fuel + 1 => do
    let s ← get
    if s.putBack then
      set { s with putBack := false }
      return s.token
    match ← next with
    | none => found .endOfText
    | some b =>
      match Bytes.asChar b with
      | ' ' => skip; readRaw fuel
      | '\t' => skip; readRaw fuel
      | '#' =>
        modify fun s => { s with rest := s.rest.dropWhile (· ≠ Bytes.newline) }
        readRaw fuel
      | '\n' => skip; found .newline
      | '(' => skip; found .openParen
      | ')' => skip; found .closeParen
      | '&' =>
        skip
        if ← skipIf '&' then return ← found .bothSign
        if ← isBehindAmpersand then
          skip
          let opening := if ← skipIf '>' then Opening.append else .write
          modify ({ · with operator := .outputs opening })
          return ← found .redirection
        found .ampersand
      | '|' =>
        skip
        if ← skipIf '|' then return ← found .eitherSign
        if s.language.isExtended then
          if ← skipIf '&' then return ← found .fullBar
        found .bar
      | ';' => skip; if ← skipIf ';' then found .caseEnd else found .semicolon
      | _ => readWord (commandReaders fuel) fuel

/-- The documents that have been asked for. -/
def readDocuments : Nat → Reader Unit
  | 0 => refuse .tooDeep
  | fuel + 1 => do
    match (← get).pending with
    | [] => return ()
    | document :: pending =>
      modify ({ · with pending })
      let contents ←
        if document.quoted then
          let s ← get
          let (lines, rest, count) := takeLines document.mark (s.rest.length + 1) s.rest
          set { s with rest, line := s.line + count }
          pure [.literal lines]
        else
          modify ({ · with mark := some document.mark, ended := false })
          beginLine
          let contents ← readParts (commandReaders fuel) fuel .document
          modify ({ · with mark := none, ended := false })
          pure contents
      modify fun s => { s with documents := (document.number, contents) :: s.documents }
      readDocuments fuel

/-- The next token behind newlines. -/
def readBehindNewlines : Nat → Reader Token
  | 0 => refuse .tooDeep
  | fuel + 1 => do
    match ← readRaw fuel with
    | .newline =>
      readDocuments fuel
      readBehindNewlines fuel
    | token => return token

/-- The next token, which is a keyword or gives way to the text of an alias if that is to be
checked. -/
def readToken : Nat → Checks → Reader Token
  | 0, _ => refuse .tooDeep
  | fuel + 1, checks => do
    let before := (← get).rest.length
    let token ← if checks.newlines then readBehindNewlines fuel else readRaw fuel
    let checksAlias := (← leaveAliases before) || checks.aliases
    let s ← get
    match token, plainText? s.word with
    | .word, some word =>
      if s.quoted then return token
      match if checks.keywords then Token.keyword? s.language word else none with
      | some keyword =>
        set { s with token := keyword }
        return keyword
      | none =>
        let alias? ← if checksAlias then aliasOf? word else pure none
        match alias? with
        | some text =>
          pushAlias word text
          readToken fuel { checks with aliases := true }
        | none => return token
    | _, _ => return token

/-- The readers of the commands that a word may hold. -/
def commandReaders : Nat → CommandReaders
  | 0 => ⟨refuse .tooDeep, refuse .tooDeep⟩
  | fuel + 1 =>
    { parenthesized := do
        let body ← readList fuel .anything .nothing
        if (← readToken fuel {}) ≠ .closeParen then unexpected (some .closeParen)
        let s ← get
        set { s with rest := [] }
        readDocuments fuel
        modify fun inner => { s with
          documents := inner.documents, nextDocument := inner.nextDocument, pending := [] }
        return body
      wholeText := readList fuel .anything .nothing }

/-- A token that has to be there. -/
def expect : Nat → Checks → Token → Reader Unit
  | 0, _, _ => refuse .tooDeep
  | fuel + 1, checks, wanted => do
    if (← readToken fuel checks) ≠ wanted then unexpected (some wanted)

/-- Commands behind those that have been read. -/
def readList : Nat → Extent → Command → Reader Command
  | 0, _, _ => refuse .tooDeep
  | fuel + 1, extent, done => do
    let hasBegun := match done with
      | .nothing => false
      | _ => true
    match ← readToken fuel { Checks.command with newlines := extent ≠ .line } with
    | .newline =>
      readDocuments fuel
      return done
    | .endOfText =>
      readDocuments fuel
      modify ({ · with token := .endOfText })
      putBack
      return done
    | token =>
      putBack
      let mayEnd := extent = .anything || (extent = .body && hasBegun)
      if mayEnd && token.endsCommands then return done
      let read ← readAndOr fuel
      let token ← readToken fuel {}
      let command :=
        if token = .ampersand then
          match read with
          | .pipeline stages _ => .pipeline stages true
          | .redirected line command redirects => .background line command redirects
          | command => .background 0 command []
        else read
      let all := if hasBegun then .sequence done command else command
      match token with
      | .endOfText =>
        readDocuments fuel
        modify ({ · with token := .endOfText })
        putBack
        return all
      | .newline =>
        putBack
        readList fuel extent all
      | .ampersand => readList fuel extent all
      | .semicolon => readList fuel extent all
      | _ =>
        if extent = .line then unexpected none
        putBack
        return all

/-- Pipelines between signs for "both" and "either". -/
def readAndOr : Nat → Reader Command
  | 0 => refuse .tooDeep
  | fuel + 1 => do
    let first ← readPipeline fuel {}
    readAndOrBehind fuel first

/-- What follows a pipeline in such a row. -/
def readAndOrBehind : Nat → Command → Reader Command
  | 0, _ => refuse .tooDeep
  | fuel + 1, first => do
    match ← readToken fuel {} with
    | .bothSign =>
      let second ← readPipeline fuel .laterCommand
      readAndOrBehind fuel (.both first second)
    | .eitherSign =>
      let second ← readPipeline fuel .laterCommand
      readAndOrBehind fuel (.either first second)
    | _ =>
      putBack
      return first

/-- Commands between bars, and a mark of negation in front of them. -/
def readPipeline : Nat → Checks → Reader Command
  | 0, _ => refuse .tooDeep
  | fuel + 1, checks => do
    let token ← readToken fuel checks
    if token = .keyword "time" then return ← readPipeline fuel .command
    let negated := token = .keyword "!"
    if !negated then putBack
    let first ← readCommand fuel (if negated then .command else {})
    let stages ← readStages fuel first
    let command := match stages with
      | [only] => only
      | stages => .pipeline stages false
    return if negated then .negation command else command

/-- A command and those behind bars. -/
def readStages : Nat → Command → Reader (List Command)
  | 0, _ => refuse .tooDeep
  | fuel + 1, first => do
    let line := (← get).line
    match ← readToken fuel {} with
    | .bar =>
      let next ← readCommand fuel .laterCommand
      return first :: (← readStages fuel next)
    | .fullBar =>
      let next ← readCommand fuel .laterCommand
      let joined : Redirect := .duplicate 2 [.literal [0x31]]
      return .redirected line first [joined] :: (← readStages fuel next)
    | _ =>
      putBack
      return [first]

def readCommand : Nat → Checks → Reader Command
  | 0, _ => refuse .tooDeep
  | fuel + 1, checks => do
    let line := (← get).line
    let keyword (text : String) : Token := .keyword text
    match ← readToken fuel checks with
    | .keyword "if" =>
      let command ← readChoice fuel
      expect fuel {} (keyword "fi")
      readRedirected fuel line command
    | .keyword "while" =>
      let condition ← readList fuel .body .nothing
      let body ← readLoopBody fuel {}
      readRedirected fuel line (.loop false condition body)
    | .keyword "until" =>
      let condition ← readList fuel .body .nothing
      let body ← readLoopBody fuel {}
      readRedirected fuel line (.loop true condition body)
    | .keyword "for" =>
      let command ← readForEach fuel line
      readRedirected fuel line command
    | .keyword "case" =>
      if (← readToken fuel {}) ≠ .word then unexpected (some .word)
      let subject := (← get).word
      expect fuel .laterCommand (keyword "in")
      let cases ← readCases fuel
      readRedirected fuel line (.select line subject cases)
    | .keyword "\x7b" =>
      let body ← readList fuel .body .nothing
      expect fuel {} (keyword "\x7d")
      readRedirected fuel line body
    | .keyword "function" =>
      if (← readToken fuel {}) ≠ .word then unexpected none
      let name := (plainText? (← get).word).getD []
      if (← readToken fuel {}) = .openParen then expect fuel {} .closeParen else putBack
      return .define name (← readCommand fuel .laterCommand)
    | .keyword "[[" =>
      let condition ← readCheck fuel
      if !(← isCheckEnd fuel) then unexpected none
      readRedirected fuel line (.check line condition)
    | .openParen =>
      if ← isSumAhead then
        skip
        let text ← readParts (commandReaders fuel) fuel (.sum 0)
        return ← readRedirected fuel line (.sum line text)
      let body ← readList fuel .body .nothing
      expect fuel {} .closeParen
      return .subshell line body (← readRedirects fuel)
    | .word =>
      putBack
      readSimple fuel (← get).line [] [] []
    | .redirection =>
      putBack
      readSimple fuel (← get).line [] [] []
    | _ => unexpected none

/-- A command with the redirections behind it. -/
def readRedirected : Nat → Nat → Command → Reader Command
  | 0, _, _ => refuse .tooDeep
  | fuel + 1, line, command => do
    let redirects ← readRedirects fuel
    return if redirects.isEmpty then command else .redirected line command redirects

/-- The redirections behind a command. -/
def readRedirects : Nat → Reader (List Redirect)
  | 0 => refuse .tooDeep
  | fuel + 1 => do
    if (← readToken fuel .command) = .redirection then
      let redirect ← readRedirect fuel
      return redirect :: (← readRedirects fuel)
    putBack
    return []

/-- A redirection whose signs have been read. -/
def readRedirect : Nat → Reader Redirect
  | 0 => refuse .tooDeep
  | fuel + 1 => do
    let s ← get
    let isDocument := match s.operator with
      | .document _ => true
      | _ => false
    set { s with readsMark := isDocument }
    let token ← readToken fuel {}
    modify ({ · with readsMark := false })
    if token ≠ .word then unexpected none
    let word := (← get).word
    match s.operator with
    | .open opening => return .file s.channel opening word
    | .text => return .text s.channel word
    | .outputs opening => return .outputs opening word
    | .duplicate => return .duplicate s.channel word
    | .document strips =>
      let t ← get
      let document : Pending :=
        { number := t.nextDocument, mark := ⟨wordBytes word, strips⟩, quoted := t.quoted }
      set { t with pending := t.pending ++ [document], nextDocument := t.nextDocument + 1 }
      return .document s.channel document.number

/-- The words, assignments and redirections of a simple command, behind those that have been read,
or the definition of a function. -/
def readSimple : Nat → Nat → List (Bytes × Word) → List Word → List Redirect → Reader Command
  | 0, _, _, _, _ => refuse .tooDeep
  | fuel + 1, line, assignments, words, redirects => do
    let ended : Reader Command := do
      putBack
      return .simple line assignments.reverse words.reverse redirects.reverse
    match ← readToken fuel { aliases := words.isEmpty } with
    | .word =>
      let { word, language, .. } ← get
      match if words.isEmpty then word.assignment? language else none with
      | some assignment => readSimple fuel line (assignment :: assignments) words redirects
      | none => readSimple fuel line assignments (word :: words) redirects
    | .redirection =>
      let redirect ← readRedirect fuel
      readSimple fuel line assignments words (redirect :: redirects)
    | .openParen =>
      match assignments, words, redirects with
      | [], [word], [] =>
        if (← readToken fuel {}) ≠ .closeParen then unexpected (some .closeParen)
        let name := (plainText? word).getD []
        if !isFunctionName (← get).language name then refuse .badFunctionName
        return .define name (← readCommand fuel .laterCommand)
      | _, _, _ => ended
    | _ => ended

/-- Whether the mark is next that ends a condition between double brackets; it is taken. -/
def isCheckEnd : Nat → Reader Bool
  | 0 => refuse .tooDeep
  | fuel + 1 => do
    let token ← readToken fuel { newlines := true }
    return token = .word && plainText? (← get).word = some (Bytes.ofString "]]")

/-- Conditions between signs for "either". -/
def readCheck : Nat → Reader Check
  | 0 => refuse .tooDeep
  | fuel + 1 => do
    let first ← readBothChecks fuel
    if (← readToken fuel { newlines := true }) = .eitherSign then
      return .either first (← readCheck fuel)
    putBack
    return first

/-- Conditions between signs for "both". -/
def readBothChecks : Nat → Reader Check
  | 0 => refuse .tooDeep
  | fuel + 1 => do
    let first ← readOneCheck fuel
    if (← readToken fuel { newlines := true }) = .bothSign then
      return .both first (← readBothChecks fuel)
    putBack
    return first

/-- A condition of one or two words, or one in parentheses. -/
def readOneCheck : Nat → Reader Check
  | 0 => refuse .tooDeep
  | fuel + 1 => do
    match ← readToken fuel { newlines := true } with
    | .openParen =>
      let check ← readCheck fuel
      expect fuel { newlines := true } .closeParen
      return check
    | .word =>
      let { word, .. } ← get
      match plainText? word with
      | some [0x21] => return .negation (← readOneCheck fuel)
      | some [0x2D, letter] =>
        let c := Bytes.asChar letter
        if !checkLetters.contains c then return ← readCheckBehind fuel word
        if (← readToken fuel {}) ≠ .word then unexpected none
        return .single c (← get).word
      | some text =>
        if text = Bytes.ofString "]]" then unexpected none
        readCheckBehind fuel word
      | none => readCheckBehind fuel word
    | _ => unexpected none

/-- A condition whose first word has been read. -/
def readCheckBehind : Nat → Word → Reader Check
  | 0, _ => refuse .tooDeep
  | fuel + 1, word => do
    let behind (operator : Bytes) : Reader Check := do
      if (← readToken fuel {}) ≠ .word then unexpected none
      return .pair word operator (← get).word
    match ← readToken fuel {} with
    | .redirection =>
      match (← get).operator with
      | .open .read => behind [0x3C]
      | .open .write => behind [0x3E]
      | _ => unexpected none
    | .word =>
      match plainText? (← get).word with
      | some [0x3D, 0x7E] =>
        modify fun s => { s with rest := s.rest.dropWhile isBlank }
        let expression ← readParts (commandReaders fuel) fuel .expression
        return .pair word [0x3D, 0x7E] expression
      | some operator =>
        if checkOperators.contains operator then return ← behind operator
        putBack
        return .single 'n' word
      | none => unexpected none
    | _ =>
      putBack
      return .single 'n' word

/-- The branches behind a keyword, up to the end of the choice. -/
def readChoice : Nat → Reader Command
  | 0 => refuse .tooDeep
  | fuel + 1 => do
    let condition ← readList fuel .body .nothing
    expect fuel {} (.keyword "then")
    let body ← readList fuel .body .nothing
    match ← readToken fuel {} with
    | .keyword "elif" => return .choice condition body (← readChoice fuel)
    | .keyword "else" => return .choice condition body (← readList fuel .body .nothing)
    | _ =>
      putBack
      return .choice condition body .nothing

/-- The commands of a loop. -/
def readLoopBody : Nat → Checks → Reader Command
  | 0, _ => refuse .tooDeep
  | fuel + 1, checks => do
    expect fuel checks (.keyword "do")
    let body ← readList fuel .body .nothing
    expect fuel {} (.keyword "done")
    return body

/-- A loop over words, behind its keyword. -/
def readForEach : Nat → Nat → Reader Command
  | 0, _ => refuse .tooDeep
  | fuel + 1, line => do
    let token ← readToken fuel {}
    let s ← get
    if token = .openParen && (← isSumAhead) then
      skip
      let text ← readParts (commandReaders fuel) fuel (.sum 0)
      let (first, others) := Word.cutAt 0x3B text
      let (condition, behind) := Word.cutAt 0x3B (others.getD [])
      if (← readToken fuel .laterCommand) ≠ .semicolon then putBack
      let body ← readLoopBody fuel .laterCommand
      return .counted line first condition (behind.getD []) body
    let name := (plainText? s.word).getD []
    if token ≠ .word || s.quoted || !isName name then refuse .badLoopVariable
    match ← readToken fuel .laterCommand with
    | .keyword "in" =>
      let words ← readWords fuel
      let token := (← get).token
      if token ≠ .newline && token ≠ .semicolon then unexpected none
      return .forEach line name (some words) (← readLoopBody fuel .laterCommand)
    | token =>
      if token ≠ .semicolon then putBack
      return .forEach line name none (← readLoopBody fuel .laterCommand)

/-- Words up to another token. -/
def readWords : Nat → Reader (List Word)
  | 0 => refuse .tooDeep
  | fuel + 1 => do
    if (← readToken fuel {}) = .word then
      let word := (← get).word
      return word :: (← readWords fuel)
    return []

/-- The cases of a selection, up to its end. -/
def readCases : Nat → Reader (List (List Word × Command))
  | 0 => refuse .tooDeep
  | fuel + 1 => do
    let checks : Checks := { newlines := true, keywords := true }
    match ← readToken fuel checks with
    | .keyword "esac" => return []
    | token =>
      if token = .openParen then let _ ← readToken fuel {}
      let patterns ← readPatterns fuel
      let body ← readList fuel .anything .nothing
      match ← readToken fuel checks with
      | .keyword "esac" => return [(patterns, body)]
      | .caseEnd => return (patterns, body) :: (← readCases fuel)
      | _ => unexpected (some .caseEnd)

/-- The patterns of a case, of which the first has been read. -/
def readPatterns : Nat → Reader (List Word)
  | 0 => refuse .tooDeep
  | fuel + 1 => do
    let pattern := (← get).word
    match ← readToken fuel {} with
    | .bar =>
      let _ ← readToken fuel {}
      return pattern :: (← readPatterns fuel)
    | .closeParen => return [pattern]
    | _ => unexpected (some .closeParen)

end

/-- More than the number of steps that are nested in reading any program. -/
def stepLimit : Nat := 1000000

/-- The commands on the first line of a program; none at its end. -/
def line : Reader (Option Command) := do
  modify ({ · with putBack := false, pending := [] })
  match ← readList stepLimit .line .nothing with
  | .nothing => return if (← get).token = .endOfText then none else some .nothing
  | command => return some command

/-- A whole text, in which expansions are read as in a document. No line of it is a mark. -/
def text : Reader Word := do
  modify ({ · with mark := some { text := [Bytes.newline], strips := false } })
  readParts (commandReaders stepLimit) stepLimit .document

end Reader

end Intercept.Shell
