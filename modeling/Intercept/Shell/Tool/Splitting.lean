import Intercept.Shell.Names

/-!
# Splitting a text into words

One text can hold several words of a program, between blanks. Quotes keep blanks in a word,
a backslash stands before bytes that would have a meaning, and a variable in braces gives way to its
value, whose bytes have no meaning.
-/

namespace Intercept.Shell.Splitting

/-- What has been read of a text. -/
structure Scan where
  words : List Bytes := []
  /-- The word that is being read; nothing between words. -/
  current : Option Bytes := none
  /-- The quote that is open. -/
  quote : Option UInt8 := none

namespace Scan

/-- Goes on with the word, or begins one. -/
def append (s : Scan) (bytes : Bytes) : Scan :=
  { s with current := some (s.current.getD [] ++ bytes) }

/-- Ends the word. -/
def close (s : Scan) : Scan := { s with words := s.words ++ s.current.toList, current := none }

end Scan

/-- The name of the variable in braces at the front of a text. -/
def variableName? (text : Bytes) : Option Bytes :=
  match text with
  | 0x7B :: rest =>
    match nameAtFront rest with
    | ([], _) => none
    | (name, 0x7D :: _) => some name
    | _ => none
  | _ => none

/-- What a byte behind a backslash stands for. -/
inductive Escaped where
  | byte (b : UInt8)
  /-- A blank, which ends a word outside quotes. -/
  | blank
  /-- The end of the text. -/
  | theEnd

/-- What a letter, or a byte that would have a meaning, stands for behind a backslash. -/
def escaped? (b : UInt8) : Option Escaped :=
  match Bytes.asChar b with
  | '_' => some .blank
  | 'c' => some .theEnd
  | 'f' => some (.byte 0x0C)
  | 'n' => some (.byte 0x0A)
  | 'r' => some (.byte 0x0D)
  | 't' => some (.byte 0x09)
  | 'v' => some (.byte 0x0B)
  | c => if "\"#$'\\".contains c then some (.byte b) else none

/-- Reads what is left of a text, but passes over its first bytes. A failure is a message. -/
def read (value : Bytes → Option Bytes) : Nat → Scan → Bytes → Except Bytes (List Bytes)
  | _, s, [] =>
    if s.quote.isSome then .error (Bytes.ofString "no terminating quote in -S string")
    else .ok s.close.words
  | passed + 1, s, _ :: rest => read value passed s rest
  | 0, s, b :: rest =>
    let isOpen (quote : UInt8) : Bool := s.quote = some quote
    let isQuote := b = 0x27 || b = Bytes.quote
    if isQuote && (s.quote.isNone || isOpen b) then
      read value 0 { s.append [] with quote := if isOpen b then none else some b } rest
    else if isSpace b && s.quote.isNone then read value 0 s.close rest
    else if b = 0x23 && s.current.isNone then .ok s.words
    else
      let isPlain := isOpen 0x27 && !(rest.head?.any fun c => c = 0x27 || c = 0x5C)
      if b = 0x5C && !isPlain then
        match rest with
        | [] => .error (Bytes.ofString "invalid backslash at end of string in -S")
        | c :: _ =>
          match escaped? c with
          | some (.byte own) => read value 1 (s.append [own]) rest
          | some .blank =>
            read value 1 (if isOpen Bytes.quote then s.append [Bytes.space] else s.close) rest
          | some .theEnd =>
            if isOpen Bytes.quote then
              .error (Bytes.ofString "'\\c' must not appear in double-quoted -S string")
            else .ok s.close.words
          | none => .error (Bytes.ofString "invalid sequence '\\" ++ c :: Bytes.ofString "' in -S")
      else if b = 0x24 && !isOpen 0x27 then
        match variableName? rest with
        | some name =>
          read value (name.length + 2) ((value name).elim s s.append) rest
        | none =>
          .error (Bytes.ofString "only $\x7bVARNAME\x7d expansion is supported, error at: " ++
            b :: rest)
      else read value 0 (s.append [b]) rest

end Splitting

/-- The words of a text, in which variables have values. A failure is a message. -/
def splitText (value : Bytes → Option Bytes) (text : Bytes) : Except Bytes (List Bytes) :=
  Splitting.read value 0 {} text

end Intercept.Shell
