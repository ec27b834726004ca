import Intercept.Shell.Tool.Calculation
import Intercept.Shell.Tool.Condition
import Intercept.Shell.Tool.Copies
import Intercept.Shell.Tool.Counts
import Intercept.Shell.Tool.Dates
import Intercept.Shell.Tool.Digests
import Intercept.Shell.Tool.Directories
import Intercept.Shell.Tool.Dump
import Intercept.Shell.Tool.Encoding
import Intercept.Shell.Tool.Ends
import Intercept.Shell.Tool.Entries
import Intercept.Shell.Tool.Exchange
import Intercept.Shell.Tool.Finding
import Intercept.Shell.Tool.Layout
import Intercept.Shell.Tool.Links
import Intercept.Shell.Tool.Ordering
import Intercept.Shell.Tool.Series
import Intercept.Shell.Tool.Sizes
import Intercept.Shell.Tool.Texts
import Intercept.Shell.Tool.Times

/-!
# The tools of a host system

A tool is found by its name. The command interpreter is one of them, and so are the tools that start
others; these are carried out elsewhere.
-/

namespace Intercept.Shell.Tool

/-- The tools that show and change what is in the file tree. -/
def treeTools : List (String × (List Bytes → Action Nat)) :=
  [("pwd", withUse { letters := "LP" } 1 pwd),
    ("ls", withUse lsOptions 2 (ls {})),
    ("dir", withUse lsOptions 2 (ls { layout := .columns true, style := .escaped false })),
    ("vdir", withUse lsOptions 2 (ls { layout := .long true true, style := .escaped false })),
    ("rm", withUse rmOptions 1 rm),
    ("rmdir", withUse { letters := "pv" } 1 rmdir),
    ("mkdir", withUse mkdirOptions 1 mkdir),
    ("touch", withUse touchOptions 1 touch),
    ("cp", withUse cpOptions 1 cp),
    ("mv", withUse mvOptions 1 mv),
    ("ln", withUse lnOptions 1 ln),
    ("chmod", chmod),
    ("stat", withUse statOptions 1 stat),
    ("truncate", withUse truncateOptions 1 truncate),
    ("mktemp", withUse mktempOptions 1 mktemp),
    ("readlink", withUse readlinkOptions 1 readlink),
    ("realpath", withUse realpathOptions 1 realpath),
    ("link", withUse { letters := "" } 1 link),
    ("unlink", withUse { letters := "" } 1 unlink),
    ("sync", withUse { letters := "df", names := [("data", 'd'), ("file-system", 'f')] } 1 sync)]

/-- The tools that work on texts. -/
def textTools : List (String × (List Bytes → Action Nat)) :=
  [("echo", echo),
    ("printf", printf),
    ("cat", withUse catOptions 1 cat),
    ("head", headOfWords),
    ("tail", tailOfWords),
    ("wc", withUse wcOptions 1 wc),
    ("basename", withUse { letters := "as:z" } 1 basename),
    ("dirname", withUse { letters := "z" } 1 dirname),
    ("cut", withUse cutOptions 1 cut),
    ("paste", withUse pasteOptions 1 paste),
    ("sort", withUse sortOptions 2 sort),
    ("uniq", withUse uniqOptions 1 uniq),
    ("comm", withUse commOptions 1 comm),
    ("tr", withFront trOptions 1 tr),
    ("tac", withUse { letters := "" } 1 tac),
    ("rev", withUse { letters := "" } 1 rev),
    ("nl", withUse { letters := "b:d:f:h:i:l:n:ps:v:w:" } 1 nl),
    ("fold", withUse { letters := "bsw:", names := [("width", 'w'), ("spaces", 's')] } 1 fold),
    ("expand", withUse { letters := "it:" } 1 expand),
    ("tee", withUse teeOptions 1 tee),
    ("yes", withUse { letters := "" } 1 yes),
    ("grep", grep .basic),
    ("egrep", grep .extended),
    ("fgrep", grep .text),
    ("sed", sed),
    ("seq", seq)]

/-- The tools that show bytes in another form, or a number for all of them. -/
def formTools : List (String × (List Bytes → Action Nat)) :=
  [("od", od),
    ("base64", withUse encodingOptions 1 (encoding wideAlphabet)),
    ("base32", withUse encodingOptions 1 (encoding narrowAlphabet)),
    ("cksum", withUse { letters := "" } 1 cksum),
    ("sum", withUse { letters := "rs", names := [("sysv", 's')] } 1 sumOfFiles)] ++
  digestKinds.map fun (name, kind) => (name ++ "sum", withUse digestOptions 1 (digests kind))

/-- The tools that tell of the system. -/
def systemTools : List (String × (List Bytes → Action Nat)) :=
  [("uname", withUse unameOptions 1 uname),
    ("arch", withUse { letters := "" } 1 arch),
    ("whoami", withUse { letters := "" } 1 whoami),
    ("logname", withUse { letters := "" } 1 logname),
    ("tty", withUse { letters := "s", names := [("silent", 's'), ("quiet", 's')] } 2 tty),
    ("id", withUse idOptions 1 identity),
    ("groups", withUse { letters := "" } 1 groupsOf),
    ("date", dateOfWords),
    ("printenv", withFront { letters := "0", names := [("null", '0')] } 2 printenv),
    ("which", withFront { letters := "as" } 2 which)]

/-- The tools that evaluate something. -/
def testTools : List (String × (List Bytes → Action Nat)) :=
  [("true", fun _ => return 0),
    ("false", fun _ => return 1),
    ("test", test),
    ("[", bracket),
    ("expr", expr)]

/-- The tools that start no program. -/
def all : List (String × (List Bytes → Action Nat)) :=
  treeTools ++ textTools ++ formTools ++ systemTools ++ testTools

/-- What the tool of a name does. -/
def find? (name : String) : Option (List Bytes → Action Nat) := all.lookup name

/-- The tools that start programs. -/
def starters : List (String × (Launcher → List Bytes → Action WaitStatus)) :=
  [("nohup", nohup),
    ("setsid", setsid),
    ("stdbuf", stdbuf),
    ("nice", nice),
    ("timeout", timeout),
    ("xargs", xargs),
    ("find", find)]

/-- What the tool of a name does that starts others. -/
def starter? (name : String) : Option (Launcher → List Bytes → Action WaitStatus) :=
  starters.lookup name

/-- The names of all tools. -/
def names : List String :=
  ["sh", "dash", "bash", "rbash", "env", "sleep"] ++ all.map (·.1) ++ starters.map (·.1)

end Intercept.Shell.Tool
