import Intercept.Shell.Tool.Identity
import Intercept.Shell.Tool.Inputs
import Intercept.Shell.Tool.Moments

/-!
# Writing dates

The tool that writes the date of a moment as a format says. In a format, a percent sign stands in
front of a letter for a part of the date; flags and a width may stand between them.
-/

namespace Intercept.Shell.Tool

/-- How a part of a date is written. -/
structure DateShape where
  /-- What fills a number up to its width, if that is said; nothing for the minus sign. -/
  filler : Option (Option Char) := none
  upper : Bool := false
  /-- Whether large letters become small, or the other way round. -/
  swapped : Bool := false
  width : Option Nat := none

/-- A part of a date. -/
inductive DatePart where
  | number (value : Int) (width : Nat) (filler : Char)
  | text (text : String) (isSmallSwapped : Bool)
  /-- What another format gives. -/
  | format (text : String)
  /-- A year, and the month and the day behind it. -/
  | day (year : Int) (rest : String)
  /-- Digits of a fraction, which zeros follow. -/
  | fraction (digits : String)

namespace DatePart

/-- The part that a letter stands for, of the date of a moment. The clock is that of the
meridian. -/
def ofLetter? (moment : Files.Moment) (letter : Char) : Option DatePart :=
  let d := Files.Date.ofMoment moment
  let nanoseconds := (moment % (Files.secondLength : Int)).toNat
  let pair (n : Nat) : String := if n < 10 then s!"0{n}" else toString n
  let two (n : Nat) : DatePart := .number n 2 '0'
  let blank (n : Nat) : DatePart := .number n 2 ' '
  let hour := if d.hour % 12 = 0 then 12 else d.hour % 12
  let weekday := (Files.Date.weekdayNames[d.weekday]?).getD ""
  let month := (Files.Date.monthNames[d.month - 1]?).getD ""
  let short (name : String) : String := (name.take 3).toString
  let (week, weekYear) := d.weekAndYear
  match letter with
  | 'a' => some (.text (short weekday) false)
  | 'A' => some (.text weekday false)
  | 'b' | 'h' => some (.text (short month) false)
  | 'B' => some (.text month false)
  | 'c' => some (.format "%a %b %e %H:%M:%S %Y")
  | 'C' => some (.number (d.year / 100) 2 '0')
  | 'd' => some (two d.day)
  | 'D' | 'x' => some (.format "%m/%d/%y")
  | 'e' => some (blank d.day)
  | 'F' => some (.day d.year s!"-{pair d.month}-{pair d.day}")
  | 'g' => some (.number (weekYear % 100) 2 '0')
  | 'G' => some (.number weekYear 4 '0')
  | 'H' => some (two d.hour)
  | 'I' => some (two hour)
  | 'j' => some (.number (d.dayOfYear + 1) 3 '0')
  | 'k' => some (blank d.hour)
  | 'l' => some (blank hour)
  | 'm' => some (two d.month)
  | 'M' => some (two d.minute)
  | 'n' => some (.text "\n" false)
  | 'N' =>
    let digits := toString nanoseconds
    some (.fraction (String.ofList (List.replicate (9 - digits.length) '0') ++ digits))
  | 'p' => some (.text (if d.hour < 12 then "AM" else "PM") true)
  | 'P' => some (.text (if d.hour < 12 then "am" else "pm") false)
  | 'q' => some (.number ((d.month + 2) / 3 : Nat) 1 '0')
  | 'r' => some (.format "%I:%M:%S %p")
  | 'R' => some (.format "%H:%M")
  | 's' => some (.number (moment / (Files.secondLength : Int)) 1 '0')
  | 'S' => some (two d.second)
  | 't' => some (.text "\t" false)
  | 'T' | 'X' => some (.format "%H:%M:%S")
  | 'u' => some (.number ((d.weekday + 6) % 7 + 1 : Nat) 1 '0')
  | 'U' => some (two (d.weekFrom 0))
  | 'V' => some (two week)
  | 'w' => some (.number d.weekday 1 '0')
  | 'W' => some (two (d.weekFrom 1))
  | 'y' => some (.number (d.year % 100) 2 '0')
  | 'Y' => some (.number d.year 4 '0')
  | 'z' => some (.text "+0000" false)
  | 'Z' => some (.text "UTC" true)
  | _ => none

/-- A text behind so many fillers that it has some width. -/
def filled (filler : Char) (width : Nat) (text : String) : String :=
  String.ofList (List.replicate (width - text.length) filler) ++ text

end DatePart

/-- Reads the flags in front of a letter. -/
def DateShape.read (shape : DateShape) : List Char → DateShape × List Char
  | '-' :: rest => DateShape.read { shape with filler := some none } rest
  | '_' :: rest => DateShape.read { shape with filler := some (some ' ') } rest
  | '0' :: rest => DateShape.read { shape with filler := some (some '0') } rest
  | '+' :: rest => DateShape.read { shape with filler := some (some '0') } rest
  | '^' :: rest => DateShape.read { shape with upper := true } rest
  | '#' :: rest => DateShape.read { shape with swapped := true } rest
  | rest =>
    let digits := rest.takeWhile (·.isDigit)
    let width := if digits.isEmpty then none else (String.ofList digits).toNat?
    ({ shape with width }, rest.drop digits.length)

/-- A number as it is written. -/
def DateShape.number (shape : DateShape) (value : Int) (width : Nat) (filler : Char) : String :=
  let (sign, digits) := (if value < 0 then "-" else "", toString value.natAbs)
  match shape.filler.getD (some filler) with
  | none => sign ++ digits
  | some '0' => sign ++ DatePart.filled '0' ((shape.width.getD width) - sign.length) digits
  | some filler => DatePart.filled filler (shape.width.getD width) (sign ++ digits)

/-- A text as it is written. -/
def DateShape.text (shape : DateShape) (text : String) (isSmallSwapped : Bool) : String :=
  let own :=
    if shape.swapped && isSmallSwapped then text.toLower
    else if shape.upper || shape.swapped then text.toUpper
    else text
  match shape.filler.getD (some ' '), shape.width with
  | some filler, some width => DatePart.filled filler width own
  | _, _ => own

/-- The digits of a fraction, as many as are asked for. -/
def DateShape.fraction (shape : DateShape) (digits : String) : String :=
  let count := shape.width.getD 9
  (digits.take count).toString ++ String.ofList (List.replicate (count - digits.length) '0')

/-- The offset of a clock from the meridian with some colons in it. -/
def offsetText (colons : Nat) : Option String :=
  ["+0000", "+00:00", "+00:00:00", "+00"][colons]?

/-- What a format gives for a moment. The first argument bounds the number of formats that stand for
one another and of pieces. -/
def dateText (moment : Files.Moment) : Nat → List Char → String
  | 0, _ => ""
  | _ + 1, [] => ""
  | fuel + 1, '%' :: '%' :: rest => "%" ++ dateText moment fuel rest
  | fuel + 1, '%' :: rest =>
    let (shape, behind) := DateShape.read {} rest
    let colons := (behind.takeWhile (· = ':')).length
    let letters := match behind with
      | 'E' :: letter :: _ => if "cCxXyY".contains letter then behind.drop 1 else behind
      | 'O' :: letter :: _ => if "deHIkmMSuUVwWy".contains letter then behind.drop 1 else behind
      | behind => behind.drop colons
    let asWritten (count : Nat) : String :=
      "%" ++ String.ofList (rest.take count) ++ dateText moment fuel (rest.drop count)
    match letters with
    | [] => "%" ++ String.ofList rest
    | letter :: after =>
      let count := rest.length - after.length
      if 0 < colons then
        match letter, offsetText colons with
        | 'z', some offset => shape.text offset false ++ dateText moment fuel after
        | _, _ => asWritten count
      else
        match DatePart.ofLetter? moment letter with
        | none => asWritten count
        | some (.number value width filler) =>
          shape.number value width filler ++ dateText moment fuel after
        | some (.day year rest) =>
          let own := { shape with width := shape.width.map (· - rest.length) }
          own.number year 4 '0' ++ rest ++ dateText moment fuel after
        | some (.text text isSmallSwapped) =>
          shape.text text isSmallSwapped ++ dateText moment fuel after
        | some (.format format) =>
          shape.text (dateText moment fuel format.toList) false ++ dateText moment fuel after
        | some (.fraction digits) => shape.fraction digits ++ dateText moment fuel after
  | fuel + 1, c :: rest => toString c ++ dateText moment fuel rest

/-- The formats of standards, by the precision that is asked for. -/
def standardFormats : List (Char × List (String × String)) :=
  [('I', [("hours", "%Y-%m-%dT%H%:z"), ("minutes", "%Y-%m-%dT%H:%M%:z"), ("date", "%Y-%m-%d"),
      ("seconds", "%Y-%m-%dT%H:%M:%S%:z"), ("ns", "%Y-%m-%dT%H:%M:%S,%N%:z")]),
    ('3', [("date", "%Y-%m-%d"), ("seconds", "%Y-%m-%d %H:%M:%S%:z"),
      ("ns", "%Y-%m-%d %H:%M:%S.%N%:z")])]

/-- Refuses an argument that is none of some words, and shows those. -/
def refuseChoice (name argument : String) (choices : List String) : Action Unit := do
  remark (Bytes.ofString "invalid argument " ++ quotedText (Bytes.ofString argument) ++
    Bytes.ofString s!" for '--{name}'")
  Action.tell (Bytes.ofString "Valid arguments are:")
  for choice in choices do Action.tell (Bytes.ofString s!"  - '{choice}'")
  tellHelp

/-- Writes the dates of moments in a format. -/
def writeDates (format : String) (moments : List (Bytes × Option Files.Moment)) : Action Nat := do
  let mut status := 0
  for (text, moment?) in moments do
    match moment? with
    | some moment =>
      let line := dateText moment (4 * format.length + 100) format.toList
      if (← emitLine (Bytes.ofString line)) ≠ 0 then status := 1
    | none =>
      remark (Bytes.ofString "invalid date " ++ quotedText text)
      status := 1
  return status

/-- The moments that options ask for, each with its text; no moment where a text names none. -/
def momentsOf (use : Use) : Action (Option (List (Bytes × Option Files.Moment))) := do
  let p ← get
  match use.argument? 'd', use.argument? 'r', use.argument? 'f' with
  | some text, _, _ => return some [(text, moment p.system.now text)]
  | none, some path, _ =>
    match p.tree.find p.directory path with
    | .ok (.node place _) => return some [(path, (p.tree.attributes? place).map (·.time))]
    | .ok (.free _) =>
      explain "" (nameText path) Errno.noSuchFile.description
      return none
    | .error cause =>
      explain "" (nameText path) (reason cause)
      return none
  | none, none, some path =>
    match contentsOfName p path with
    | .ok text =>
      takeFrom path text.length
      let lines := Bytes.splitAt Bytes.newline text
      let lines := if lines.getLast? = some [] then lines.dropLast else lines
      return some (lines.map fun line => (line, moment p.system.now line))
    | .error cause =>
      explain "" (nameText path) (reason cause)
      return none
  | none, none, none => return some [([], some p.system.now)]

/-- Writes a date: that of now, or of the moments that options name. -/
def date (use : Use) : Action Nat := do
  let isGiven := use.hasAny "dfr"
  if 1 < (['d', 'f', 'r'].filter use.has).length then
    refuseUse (Bytes.ofString "the options to specify dates for printing are mutually exclusive")
    return 1
  if ← refusesMore use 1 then return 1
  let asked := use.options.filterMap fun (letter, argument) =>
    if letter = 'R' then some ("", "%a, %d %b %Y %H:%M:%S %z", [])
    else (standardFormats.lookup letter).map fun formats =>
      let word := if argument.isEmpty then "date" else Utf8.text argument
      (word, (formats.lookup word).getD "", formats.map (·.1))
  for (word, format, choices) in asked do
    if format.isEmpty then
      refuseChoice (if choices.length = 5 then "iso-8601" else "rfc-3339") word choices
      return 1
  let usual := (asked.getLast?.map (·.2.1)).getD "%a %b %e %H:%M:%S %Z %Y"
  match use.operands with
  | operand :: _ =>
    match operand with
    | 0x2B :: format =>
      if !asked.isEmpty then
        remark (Bytes.ofString "multiple output formats specified")
        return 1
      match ← momentsOf use with
      | some moments => writeDates (Utf8.text format) moments
      | none => return 1
    | _ =>
      if isGiven then
        refuseUse (Bytes.ofString "the argument " ++ quotedText operand ++
          Bytes.ofString (" lacks a leading '+';\nwhen using an option to specify date(s), any " ++
            "non-option\nargument must be a format string beginning with '+'"))
      else remark (Bytes.ofString "invalid date " ++ quotedText operand)
      return 1
  | [] =>
    match ← momentsOf use with
    | some moments => writeDates usual moments
    | none => return 1

def dateOptions : Use.Known :=
  { letters := "ud:f:r:RI3:"
    names := [("date", 'd'), ("file", 'f'), ("reference", 'r'), ("utc", 'u'),
      ("universal", 'u'), ("rfc-email", 'R'), ("rfc-3339", '3')] }

/-- A word in which the option for a standard date has an argument of its own, taken out of it. -/
def withOwnPrecision (word : Bytes) : List Bytes × Option Bytes :=
  match word with
  | 0x2D :: 0x49 :: argument => ([], some argument)
  | _ =>
    let (name, argument) := Bytes.breakAt Bytes.equalsSign word
    if name = Bytes.ofString "--iso-8601" then ([], some (argument.getD [])) else ([word], none)

/-- Writes a date. The precision of a standard date stands in the word of its option. -/
def dateOfWords (words : List Bytes) : Action Nat :=
  let parts := words.map withOwnPrecision
  let precisions := parts.filterMap (·.2)
  withUse dateOptions 1 (fun use =>
    date { use with options := use.options ++ precisions.map (('I', ·)) }) (parts.flatMap (·.1))

end Intercept.Shell.Tool
