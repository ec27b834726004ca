import Intercept.Text.Utf8

/-!
# Arguments kept in a file

A fake compiler writes each of its arguments on a line of its own. The file gives the arguments
back, as long as none of them contains a newline.
-/

namespace Intercept.ArgumentFile

/-- The file for a list of arguments. -/
def write (arguments : List Bytes) : Bytes :=
  arguments.flatMap fun argument => argument ++ [Bytes.newline]

/-- The bytes before the newline that ends them, if one does. -/
def beforeLastNewline? : Bytes → Option Bytes
  | [] => none
  | [b] => if b = Bytes.newline then some [] else none
  | b :: c :: rest => (beforeLastNewline? (c :: rest)).map (b :: ·)

/-- The arguments in a file. A file that does not end a line holds none. -/
def read (file : Bytes) : List Bytes :=
  match beforeLastNewline? file with
  | none => []
  | some lines => Bytes.splitAt Bytes.newline lines

/-- The arguments in a file, as a reader sees them. -/
def readText (file : Bytes) : List String := (read file).map Utf8.text

end Intercept.ArgumentFile
