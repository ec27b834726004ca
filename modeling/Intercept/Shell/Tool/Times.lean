import Intercept.Shell.Condition
import Intercept.Shell.Tool.Moments
import Intercept.Shell.Tool.Places

/-!
# The times of files

The tool that sets the times of files, and makes those that are not there. A time is given as
digits, or in words, or by the time of another file.
-/

namespace Intercept.Shell.Tool

/-- Pairs of digits. -/
def digitPairs : Bytes → Option (List Nat)
  | [] => some []
  | [_] => none
  | a :: b :: rest =>
    if isDigit a && isDigit b then (digitPairs rest).map (decimal [a, b] :: ·) else none

/-- The moment that a stamp names: month, day, hour and minute, with the year before them and the
seconds behind a point if they are given. -/
def stampMoment? (now : Files.Moment) (text : Bytes) : Option Files.Moment := do
  let (front, behind) := Bytes.breakAt 0x2E text
  let second ← match behind with
    | none => some 0
    | some digits => match digitPairs digits with
      | some [second] => some second
      | _ => none
  let (year, rest) ← match ← digitPairs front with
    | [a, b, c, d] => some ((Files.Date.ofMoment now).year, [a, b, c, d])
    | [year, a, b, c, d] => some (DateWords.yearOfPair year, [a, b, c, d])
    | [century, year, a, b, c, d] => some ((100 * century + year : Nat), [a, b, c, d])
    | _ => none
  match rest with
  | [month, day, hour, minute] =>
    let date : Files.Date := { year, month, day, hour, minute, second }
    if date.isValid then some date.moment else none
  | _ => none

/-- The time that the options ask for. A failure is a message. -/
def timeOfUse (p : Process) (use : Use) : Except Bytes Files.Moment :=
  let now := p.system.now
  match use.argument? 'r', use.argument? 't', use.argument? 'd' with
  | some path, _, given =>
    match p.tree.find p.directory path with
    | .ok (.node place _) =>
      let own := ((p.tree.attributes? place).map (·.time)).getD now
      match given with
      | none => .ok own
      | some text => ((moment own text).map Except.ok).getD
          (.error (Bytes.ofString "invalid date format " ++ quotedText text))
    | .ok (.free _) =>
      .error (cannot "failed to get attributes of" path Errno.noSuchFile.description)
    | .error cause => .error (cannot "failed to get attributes of" path (reason cause))
  | none, some stamp, _ =>
    ((stampMoment? now stamp).map Except.ok).getD
      (.error (Bytes.ofString "invalid date format " ++ quotedText stamp))
  | none, none, some text =>
    ((moment now text).map Except.ok).getD
      (.error (Bytes.ofString "invalid date format " ++ quotedText text))
  | none, none, none => .ok now

/-- Sets the time of files, and makes those that are not there. The time of access is not kept. -/
def touch (use : Use) : Action Nat := do
  let p ← get
  if use.has 't' && use.hasAny "rd" then
    refuseUse (Bytes.ofString "cannot specify times from more than one source")
    return 1
  match timeOfUse p use with
  | .error message =>
    remark message
    return 1
  | .ok time =>
    let sets := use.has 'm' || !use.has 'a'
    changeEach use.operands "missing file operand" fun tree directory path =>
      match tree.find directory path with
      | .ok (.node place _) => .ok (if sets then tree.setTime place time else tree, [])
      | found =>
        if use.has 'c' then .ok (tree, [])
        else
          match tree.findToWrite directory path with
          | .ok found =>
            let made := tree.create found.place (.file []) (p.rights 0o666)
            .ok (if sets then made.setTime found.place time else made, [])
          | .error (.numbered ⟨21⟩) =>
            let why := match found with
              | .error cause => reason cause
              | .ok _ => Errno.noSuchFile.description
            .error (cannot "setting times of" path why)
          | .error cause => .error (cannot "cannot touch" path (reason cause))

def touchOptions : Use.Known :=
  { letters := "acfhmd:r:t:"
    names := [("no-create", 'c'), ("date", 'd'), ("reference", 'r'), ("no-dereference", 'h')] }

end Intercept.Shell.Tool
