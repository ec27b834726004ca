import Intercept.Shell.Tool.Usage

/-!
# What tools read

A tool reads the files that it is given. A minus sign stands for what can be read from its input,
and so do no files at all.
-/

namespace Intercept.Shell.Tool

/-- The name that stands for the input. -/
def inputSign : Bytes := [0x2D]

/-- The operands, or the sign for the input where there is none. -/
def inputs (use : Use) : List Bytes := if use.operands.isEmpty then [inputSign] else use.operands

/-- The contents of a file, or what can be read from the input. -/
def contentsOfName (p : Process) (name : Bytes) : Except Cause Bytes :=
  if name = inputSign then (p.input? 0).mapError .numbered
  else p.read name

/-- Takes bytes from a stream if that is what was read. -/
def takeFrom (name : Bytes) (count : Nat) : Action Unit :=
  modify fun p => if name = inputSign then p.consume 0 count else p.consumeAt name count

/-- How a title calls what is read. -/
def titleOf (name : Bytes) : Bytes :=
  if name = inputSign then Bytes.ofString "standard input" else name

/-- Whether a file could be opened, so that only reading it was not possible. -/
def isOpened (name : Bytes) (cause : Cause) : Bool :=
  name = inputSign || match cause with
    | .numbered errno => errno = .isDirectory
    | _ => false

/-- The status of a tool that closes its input when it has read from it. Where it was closed before,
that is told of. -/
def closeInput (use : Use) (message : String) (status : Nat) : Action Nat := do
  if (inputs use).contains inputSign && ((← get).channels.lookup 0).isNone then
    remark (Bytes.ofString s!"{message}: {Errno.badDescriptor.description}")
    return 1
  return status

end Intercept.Shell.Tool
