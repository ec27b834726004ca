import Intercept.Shell.Action

/-!
# Texts of commands

A text is carried out line by line, so that a line can change how the next one is read.
-/

namespace Intercept.Shell

/-- What is around a command. -/
structure Circumstances where
  /-- Whether a failure is looked at, and so no reason for the shell to end. -/
  tested : Bool := false
  /-- Whether the shell has nothing to do behind the command. -/
  last : Bool := false
  deriving DecidableEq, Repr

/-- A text that is to be read. The lines of one that is no file can be shown in the extended
language only, in which the last line always ends. -/
def Source.ofText (language : Language) (isFile : Bool) (text : Bytes) : Source :=
  let isOpen := language.isExtended && text.getLast?.any (· ≠ Bytes.newline)
  { rest := if isOpen then text ++ [Bytes.newline] else text
    isShown := isFile || language.isExtended }

/-- Shows what has been read of a text, where that is asked for. -/
def showRead (source : Source) (read : Bytes) : Action Unit := do
  if source.isShown && (← get).switches.isOn "verbose" then
    let _ ← Action.write 2 read

/-- Reads the next line of commands. -/
def readLine (source : Source) : Action (Option Command × Source) := do
  let p ← get
  let { language, documents, nextDocument, .. } := p
  let aliases := if language.isExtended then [] else p.aliases
  match Reader.line.run { source with language, aliases, documents, nextDocument } with
  | .error refusal =>
    let lines := Bytes.splitAt Bytes.newline source.rest
    let index := refusal.line - source.line
    let read := Bytes.joinWith Bytes.newline (lines.take (index + 1))
    showRead source (if index + 1 < lines.length then read ++ [Bytes.newline] else read)
    Action.failRead refusal (lines.getD index [])
  | .ok (command, after) =>
    showRead source (source.rest.take (source.rest.length - after.rest.length))
    let p ← get
    set { p with
      readingLines := after.line :: p.readingLines.drop 1
      documents := after.documents
      nextDocument := after.nextDocument }
    return (command, after)

/-- Carries out the lines that are left of a text, and gives the status of the last one. -/
def runLines (run : Circumstances → Command → Action Nat) (c : Circumstances) :
    Nat → Source → Nat → Action Nat
  | 0, _, _ => throw .exhausted
  | lines + 1, source, status => do
    let (command, after) ← readLine source
    match command with
    | none => return status
    | some command =>
      let atEnd := after.putBack && after.token = .endOfText
      let own ← run { c with last := c.last && atEnd } command
      let status := match command with
        | .nothing => status
        | _ => own
      if (← get).skip ≠ .nothing then return status
      runLines run c lines after status

/-- Carries out a text of commands inside another. -/
def runText (run : Circumstances → Command → Action Nat) (c : Circumstances) (text : Bytes)
    (isFile : Bool := false) : Action Nat := do
  let before ← get
  set { before with readingLines := 1 :: before.readingLines }
  (runLines run c Reader.stepLimit (.ofText before.language isFile text) 0).andThen fun after =>
    { after with readingLines := before.readingLines }

end Intercept.Shell
