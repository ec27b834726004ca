import Intercept.Inspector.Program

/-!
# The inspector's command line

Reads the log that the arguments name, writes the report, and ends with its code.
-/

namespace Intercept.CommandLine

/-- The number that the host system gave for a failed operation. -/
def errnoOf : IO.Error → Errno
  | .alreadyExists _ code _ => ⟨code.toNat⟩
  | .otherError code _ => ⟨code.toNat⟩
  | .resourceBusy code _ => ⟨code.toNat⟩
  | .resourceVanished code _ => ⟨code.toNat⟩
  | .unsupportedOperation code _ => ⟨code.toNat⟩
  | .hardwareFault code _ => ⟨code.toNat⟩
  | .unsatisfiedConstraints code _ => ⟨code.toNat⟩
  | .illegalOperation code _ => ⟨code.toNat⟩
  | .protocolError code _ => ⟨code.toNat⟩
  | .timeExpired code _ => ⟨code.toNat⟩
  | .interrupted _ code _ => ⟨code.toNat⟩
  | .noFileOrDirectory _ code _ => ⟨code.toNat⟩
  | .invalidArgument _ code _ => ⟨code.toNat⟩
  | .permissionDenied _ code _ => ⟨code.toNat⟩
  | .resourceExhausted _ code _ => ⟨code.toNat⟩
  | .inappropriateType _ code _ => ⟨code.toNat⟩
  | .noSuchThing _ code _ => ⟨code.toNat⟩
  | .unexpectedEof => .ioError
  | .userError _ => .ioError

/-- The contents of a file, or why it cannot be read. -/
def readFile (path : Bytes) : IO (Except Fault Bytes) := do
  if path.contains 0 then return .error (.file .nulInPath)
  else
    try
      let contents ← IO.FS.readBinFile (Utf8.text path)
      return .ok contents.toList
    catch e => return .error (.file (.numbered (errnoOf e)))

def write (channel : IO.FS.Stream) (bytes : Bytes) : IO Unit := do
  channel.write (ByteArray.mk bytes.toArray)
  channel.flush

end Intercept.CommandLine

open Intercept in
/-- Runs the inspector on the log that its arguments name. -/
def main (arguments : List String) : IO UInt32 := do
  let build := Inspector.Build.installed
  let arguments := arguments.map Bytes.ofString
  let contents ← match Inspector.logOf build arguments with
    | some path => CommandLine.readFile path
    | none => pure (.ok [])
  let terminal ← (← IO.getStdout).isTty
  let filterText ← IO.getEnv EventLog.filterVariable
  let finished := Inspector.run filterText (fun _ => contents) build terminal arguments
  CommandLine.write (← IO.getStderr) finished.errors
  CommandLine.write (← IO.getStdout) finished.output
  return finished.code.toUInt32
