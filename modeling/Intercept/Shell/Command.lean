import Intercept.Shell.Language
import Intercept.Shell.Names

/-!
# Words and commands

A word is a row of parts: bytes that stand for themselves, in quotes or not, and expansions, one of
which is the output of commands. Commands are words between operators. The text of a document that
a command reads is kept apart from the command, which knows it by a number.
-/

namespace Intercept.Shell

/-- What is done where a parameter has a value, or has none. -/
inductive Alternative where
  | default
  | assign
  | complain
  | replace
  deriving DecidableEq, Repr

/-- Which matching stretches of a value are replaced. -/
inductive Replacing where
  | first
  | all
  | atFront
  | atEnd
  deriving DecidableEq, Repr

/-- Which matching stretch of a value is cut off. -/
structure Trim where
  fromEnd : Bool
  longest : Bool
  deriving DecidableEq, Repr

/-- What a file is opened for. -/
inductive Opening where
  | read
  | write
  | append
  /-- For writing, even where files are protected. -/
  | overwrite
  | both
  deriving DecidableEq, Repr

mutual

inductive Part where
  /-- Bytes outside quotes. -/
  | plain (bytes : Bytes)
  /-- Bytes that stand for themselves. -/
  | literal (bytes : Bytes)
  /-- What stands between double quotes. -/
  | quoted (parts : List Part)
  | parameter (name : Bytes)
  | length (name : Bytes)
  /-- A parameter with a word to use in its place; `orEmpty` counts an empty value as none. -/
  | alternative (name : Bytes) (orEmpty : Bool) (rule : Alternative) (word : List Part)
  | trimmed (name : Bytes) (trim : Trim) (pattern : List Part)
  /-- The bytes of a value from one on, as many as a length says. -/
  | slice (name : Bytes) (start : List Part) (length : Option (List Part))
  | replaced (name : Bytes) (rule : Replacing) (pattern text : List Part)
  /-- A value with capitals for small letters that a pattern matches, or the other way round. -/
  | recased (name : Bytes) (capital all : Bool) (pattern : List Part)
  /-- A value between quotes, as a shell would read it. -/
  | reusable (name : Bytes)
  /-- The parameter whose name is the value of another one. -/
  | indirect (name : Bytes)
  /-- The output of commands. -/
  | substitution (body : Command)
  | arithmetic (parts : List Part)
  /-- Braces that hold no expansion, with their text. -/
  | senseless (text : Bytes)

/-- What a channel is connected to. -/
inductive Redirect where
  | file (channel : Nat) (opening : Opening) (path : List Part)
  | duplicate (channel : Nat) (source : List Part)
  | document (channel : Nat) (number : Nat)
  /-- A word that can be read from the channel as a line. -/
  | text (channel : Nat) (word : List Part)
  /-- The output and the messages together. -/
  | outputs (opening : Opening) (path : List Part)

/-- A condition between double brackets. -/
inductive Check where
  | single (letter : Char) (word : List Part)
  | pair (first : List Part) (operator : Bytes) (second : List Part)
  | negation (check : Check)
  | both (first second : Check)
  | either (first second : Check)

/-- A command. Those that messages can be about know the line that they begin on. -/
inductive Command where
  | nothing
  | simple (line : Nat) (assignments : List (Bytes × List Part)) (words : List (List Part))
      (redirects : List Redirect)
  | pipeline (stages : List Command) (inBackground : Bool)
  | negation (command : Command)
  | sequence (first second : Command)
  | both (first second : Command)
  | either (first second : Command)
  | background (line : Nat) (command : Command) (redirects : List Redirect)
  | subshell (line : Nat) (body : Command) (redirects : List Redirect)
  | redirected (line : Nat) (command : Command) (redirects : List Redirect)
  | choice (condition body otherwise : Command)
  | loop (untilTrue : Bool) (condition body : Command)
  /-- A body for each of some words, or of the arguments. -/
  | forEach (line : Nat) (name : Bytes) (words : Option (List (List Part))) (body : Command)
  | select (line : Nat) (subject : List Part) (cases : List (List (List Part) × Command))
  | define (name : Bytes) (body : Command)
  | check (line : Nat) (condition : Check)
  /-- A sum that holds where it is not zero. -/
  | sum (line : Nat) (text : List Part)
  /-- A loop as long as a sum holds, with a sum before all rounds and one behind each. -/
  | counted (line : Nat) (first condition behind : List Part) (body : Command)

end

abbrev Word := List Part

instance : Inhabited Command := ⟨.nothing⟩

/-- The bytes of a word in which nothing is quoted or expanded. -/
def plainText? : Word → Option Bytes
  | [.plain bytes] => some bytes
  | _ => none

/-- A part in front of others; neighbouring bytes outside quotes become one part. -/
def consPart : Part → Word → Word
  | .plain bytes, .plain more :: word => .plain (bytes ++ more) :: word
  | part, word => part :: word

/-- A word cut at the first of some bytes outside quotes. -/
def Word.cutAt (sign : UInt8) : List Part → List Part × Option (List Part)
  | [] => ([], none)
  | .plain bytes :: parts =>
    let behind (bytes : Bytes) : List Part := if bytes = [] then [] else [.plain bytes]
    match Bytes.breakAt sign bytes with
    | (front, some rest) => (behind front, some (behind rest ++ parts))
    | (_, none) =>
      let (front, rest) := cutAt sign parts
      (.plain bytes :: front, rest)
  | part :: parts =>
    let (front, rest) := cutAt sign parts
    (part :: front, rest)

/-- Whether a part is quoted. -/
def Part.isQuoted : Part → Bool
  | literal _ => true
  | quoted _ => true
  | _ => false

mutual

/-- What a part would be if nothing in it were expanded. -/
def partBytes : Part → Bytes
  | .plain bytes => bytes
  | .literal bytes => bytes
  | .quoted parts => wordBytes parts
  | _ => []

/-- What a word would be if nothing in it were expanded. -/
def wordBytes : List Part → Bytes
  | [] => []
  | part :: parts => partBytes part ++ wordBytes parts

end

/-- The name and the value of a word that assigns to a variable. In the extended language a plus
sign puts the value behind the one that the variable has. -/
def Word.assignment? (language : Language) (word : Word) : Option (Bytes × Word) :=
  match word with
  | .plain bytes :: parts =>
    let behind (value : Bytes) : Word := if value = [] then parts else .plain value :: parts
    match Shell.assignment? bytes, nameAtFront bytes with
    | some (name, value), _ => some (name, behind value)
    | none, (name@(_ :: _), 0x2B :: 0x3D :: value) =>
      if language.isExtended then some (name, .alternative name false .default [] :: behind value)
      else none
    | none, _ => none
  | _ => none

end Intercept.Shell
