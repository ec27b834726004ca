import Intercept.Json
import Intercept.Text.Utf8

/-!
# Settings

The two values that a trap is built with: the host compiler, which heads every command line as it
stands, and the path of the log.
-/

namespace Intercept

/-- The compiler that a trap passes invocations on to, and the path of its log. -/
structure Settings where
  host : String := "cc"
  results : Bytes := Bytes.ofString "/tmp/cctrap-results.txt"
  deriving DecidableEq, Repr

namespace Settings

/-- Why settings have no JSON form: JSON holds text, and the path is none. -/
inductive NotJson where
  | pathNotText
  deriving DecidableEq, Repr

def NotJson.message : NotJson → String
  | pathNotText => "path contains invalid UTF-8 characters"

/-- The fields of the JSON form. -/
def fields (s : Settings) : Except NotJson (List (String × Json)) :=
  match Utf8.text? s.results with
  | none => .error .pathNotText
  | some path => .ok [("host_compiler", .str s.host), ("results_path", .str path)]

def toJson (s : Settings) : Except NotJson Json := Json.obj <$> s.fields

end Settings

end Intercept
