import Intercept.Files.Calendar
import Intercept.Shell.Names
import Intercept.Text.Utf8

/-!
# Moments in words

A text names a moment by a date, a time of day, a day of the week and distances from there, in any
order. A date of which the time of day is not given begins at midnight. What is not given is taken
from the time at which the text is read.
-/

namespace Intercept.Shell.Tool

/-- A piece of a text that names a moment. -/
inductive DateToken where
  /-- Letters, all of them small. -/
  | word (letters : String)
  /-- Digits, and whether a sign stands in front of them that is a minus. -/
  | number (sign : Option Bool) (digits : Bytes)
  | mark (b : UInt8)
  deriving DecidableEq, Repr

/-- What a text says of a moment. -/
structure DateWords where
  year : Option Int := none
  /-- The month and the day. -/
  day : Option (Nat × Nat) := none
  /-- The time of day in seconds, and nanoseconds. -/
  time : Option (Nat × Nat) := none
  /-- By how many seconds the clock is ahead of that of the system. -/
  zone : Option Int := none
  /-- A day of the week, and which one counted from now. -/
  weekday : Option (Int × Nat) := none
  /-- Distances: months, days and seconds. -/
  months : Int := 0
  days : Int := 0
  seconds : Int := 0
  hasShift : Bool := false
  deriving Repr

namespace DateWords

/-- The nanoseconds of a fraction of a second in decimal digits. -/
def fractionOf (digits : Bytes) : Nat :=
  let nine := (digits ++ List.replicate 9 0x30).take 9
  decimal nine

/-- The year that two digits stand for. -/
def yearOfPair (n : Nat) : Int := if n < 69 then 2000 + n else 1900 + n

/-- The year of digits, of which two stand for one in this century or the last. -/
def yearOf (digits : Bytes) : Int :=
  if digits.length ≤ 2 then yearOfPair (decimal digits) else decimal digits

/-- The pieces of a text. What stands in parentheses is passed over. -/
def tokens : Nat → Bytes → List DateToken
  | 0, _ => []
  | _ + 1, [] => []
  | fuel + 1, b :: rest =>
    let isLetter (b : UInt8) : Bool := isNameStart b && b ≠ 0x5F
    if isSpace b || b = 0x2C then tokens fuel rest
    else if b = 0x28 then tokens fuel ((rest.dropWhile (· ≠ 0x29)).drop 1)
    else if isDigit b then
      .number none (b :: rest.takeWhile isDigit) :: tokens fuel (rest.dropWhile isDigit)
    else if (b = 0x2B || b = 0x2D) && rest.head?.any isDigit then
      .number (some (b = 0x2D)) (rest.takeWhile isDigit) :: tokens fuel (rest.dropWhile isDigit)
    else if isLetter b then
      let letters := b :: rest.takeWhile isLetter
      .word (String.ofList (letters.map Bytes.asChar)).toLower ::
        tokens fuel (rest.dropWhile isLetter)
    else .mark b :: tokens fuel rest

/-- The number of the name that a word is, or begins with three letters of. -/
def named? (names : List String) (word : String) : Option Nat :=
  names.findIdx? fun name => name.toLower = word || (name.toLower.take 3).toString = word

def month? (word : String) : Option Nat :=
  if word = "sept" then some 9 else (named? Files.Date.monthNames word).map (· + 1)

def weekday? (word : String) : Option Nat :=
  match word with
  | "tues" => some 2
  | "wednes" => some 3
  | "thur" | "thurs" => some 4
  | _ => named? Files.Date.weekdayNames word

def ordinal? (word : String) : Option Int :=
  [("last", (-1 : Int)), ("this", 0), ("next", 1), ("first", 1), ("third", 3), ("fourth", 4),
    ("fifth", 5), ("sixth", 6), ("seventh", 7), ("eighth", 8), ("ninth", 9), ("tenth", 10),
    ("eleventh", 11), ("twelfth", 12)].lookup word

/-- By how many hours the clock of a zone is ahead. -/
def zone? (word : String) : Option Int :=
  [("utc", (0 : Int)), ("gmt", 0), ("ut", 0), ("uct", 0), ("z", 0), ("wet", 0), ("west", 1),
    ("bst", 1), ("cet", 1), ("cest", 2), ("met", 1), ("eet", 2), ("msk", 3), ("ist", 5), ("jst", 9),
    ("nzst", 12), ("est", -5), ("edt", -4), ("cst", -6), ("cdt", -5), ("mst", -7), ("mdt", -6),
    ("pst", -8), ("pdt", -7)].lookup word

/-- The distance that a number of units is: months, days and seconds. -/
def shift? (count : Int) (unit : String) : Option (Int × Int × Int) :=
  let single := if unit.length > 1 && unit.endsWith "s" then (unit.dropEnd 1).toString else unit
  match single with
  | "year" => some (12 * count, 0, 0)
  | "month" => some (count, 0, 0)
  | "fortnight" => some (0, 14 * count, 0)
  | "week" => some (0, 7 * count, 0)
  | "day" => some (0, count, 0)
  | "hour" => some (0, 0, 3600 * count)
  | "minute" | "min" => some (0, 0, 60 * count)
  | "second" | "sec" => some (0, 0, count)
  | _ => none

/-- Adds a distance, or takes it away where `ago` stands behind it. -/
def withShift (w : DateWords) (shift : Int × Int × Int) (rest : List DateToken) :
    DateWords × List DateToken :=
  let (sign, rest) : Int × List DateToken := match rest with
    | .word "ago" :: rest => (-1, rest)
    | rest => (1, rest)
  let (months, days, seconds) := shift
  ({ w with
      months := w.months + sign * months
      days := w.days + sign * days
      seconds := w.seconds + sign * seconds
      hasShift := true }, rest)

/-- The seconds of an offset given by its digits, or by hours with minutes behind them. -/
def offset (isBehind : Bool) (digits : Bytes) (rest : List DateToken) : Int × List DateToken :=
  let sign : Int := if isBehind then -1 else 1
  match rest with
  | .mark 0x3A :: .number none minutes :: rest =>
    (sign * (3600 * decimal digits + 60 * decimal minutes : Nat), rest)
  | rest =>
    let n := decimal digits
    let seconds := if digits.length ≤ 2 then 3600 * n else 3600 * (n / 100) + 60 * (n % 100)
    (sign * (seconds : Nat), rest)

/-- Takes up a time of day, behind which its half of the day and its zone may stand. -/
def withTime (w : DateWords) (hour minute second fraction : Nat) (rest : List DateToken) :
    Option (DateWords × List DateToken) := do
  if w.time.isSome then failure
  let half? : Option (Nat × List DateToken) := match rest with
    | .word "am" :: rest | .word "a" :: .mark 0x2E :: .word "m" :: .mark 0x2E :: rest =>
      some (0, rest)
    | .word "pm" :: rest | .word "p" :: .mark 0x2E :: .word "m" :: .mark 0x2E :: rest =>
      some (12, rest)
    | _ => none
  let hour ← match half? with
    | some (add, _) => if 1 ≤ hour && hour ≤ 12 then some (hour % 12 + add) else none
    | none => if hour < 24 then some hour else none
  if 60 ≤ minute || 60 < second then failure
  let rest := (half?.map (·.2)).getD rest
  let timed := { w with time := some (3600 * hour + 60 * minute + second, fraction) }
  match half?, rest with
  | none, .number (some isBehind) digits :: rest =>
    let (zone, rest) := offset isBehind digits rest
    return ({ timed with zone := some zone }, rest)
  | _, rest => return (timed, rest)

def withDay (w : DateWords) (year : Option Int) (month day : Nat) (rest : List DateToken) :
    Option (DateWords × List DateToken) :=
  if w.day.isSome then none
  else some ({ w with year := year.orElse fun _ => w.year, day := some (month, day) }, rest)

/-- Takes up what begins with a number that has no sign. -/
def withNumber (w : DateWords) (digits : Bytes) (rest : List DateToken) :
    Option (DateWords × List DateToken) :=
  let n := decimal digits
  match rest with
  | .mark 0x3A :: .number none minute :: .mark 0x3A :: .number none second :: .mark 0x2E ::
      .number none fraction :: rest =>
    w.withTime n (decimal minute) (decimal second) (fractionOf fraction) rest
  | .mark 0x3A :: .number none minute :: .mark 0x3A :: .number none second :: rest =>
    w.withTime n (decimal minute) (decimal second) 0 rest
  | .mark 0x3A :: .number none minute :: rest => w.withTime n (decimal minute) 0 0 rest
  | .mark 0x2F :: .number none second :: .mark 0x2F :: .number none third :: rest =>
    if 4 ≤ digits.length then w.withDay (some n) (decimal second) (decimal third) rest
    else w.withDay (some (yearOf third)) n (decimal second) rest
  | .mark 0x2F :: .number none day :: rest => w.withDay none n (decimal day) rest
  | .number (some true) month :: .number (some true) day :: rest =>
    w.withDay (some (yearOf digits)) (decimal month) (decimal day) rest
  | .mark 0x2D :: .word name :: .number (some true) year :: rest => do
    w.withDay (some (yearOf year)) (← month? name) n rest
  | .word "am" :: _ | .word "pm" :: _ => w.withTime n 0 0 0 rest
  | _ =>
    let byWord : Option (DateWords × List DateToken) := match rest with
      | .word name :: rest =>
        match shift? n name, month? name with
        | some shift, _ => some (w.withShift shift rest)
        | none, some month =>
          match rest with
          | .number none year :: .mark 0x3A :: after =>
            w.withDay none month n (.number none year :: .mark 0x3A :: after)
          | .number none year :: rest => w.withDay (some (yearOf year)) month n rest
          | rest => w.withDay none month n rest
        | none, none => none
      | _ => none
    let isZone : Bool := match rest with
      | .number (some _) _ :: .word name :: _ => (shift? 1 name).isNone
      | .number (some _) _ :: _ => true
      | _ => false
    match byWord with
    | some found => some found
    | none =>
      if isZone then w.withTime n 0 0 0 rest
      else if w.day.isSome && w.year.isNone && !w.hasShift &&
          (w.time.isSome || 2 < digits.length) then
        some ({ w with year := some n }, rest)
      else if 4 < digits.length then
        w.withDay (some (n / 10000 : Nat)) (n / 100 % 100) (n % 100) rest
      else if digits.length ≤ 2 then w.withTime n 0 0 0 rest
      else w.withTime (n / 100) (n % 100) 0 0 rest

/-- Takes up what begins with a word. -/
def withWord (w : DateWords) (word : String) (rest : List DateToken) :
    Option (DateWords × List DateToken) :=
  let isNumber : List DateToken → Bool
    | .number none _ :: _ => true
    | _ => false
  match word with
  | "now" | "today" => some (w.withShift (0, 0, 0) rest)
  | "yesterday" => some (w.withShift (0, -1, 0) rest)
  | "tomorrow" => some (w.withShift (0, 1, 0) rest)
  | _ =>
    if word = "t" && w.day.isSome && isNumber rest then some (w, rest)
    else
      match month? word, weekday? word, shift? 1 word, ordinal? word, zone? word, rest with
      | some month, _, _, _, _, .number none day :: .number none year :: .mark 0x3A :: rest =>
        w.withDay none month (decimal day) (.number none year :: .mark 0x3A :: rest)
      | some month, _, _, _, _, .number none day :: .number none year :: rest =>
        if year.length ≤ 2 then w.withDay none month (decimal day) (.number none year :: rest)
        else w.withDay (some (decimal year)) month (decimal day) rest
      | some month, _, _, _, _, .number none day :: rest => w.withDay none month (decimal day) rest
      | _, some day, _, _, _, rest =>
        if w.weekday.isSome then none else some ({ w with weekday := some (0, day) }, rest)
      | _, _, some shift, _, _, rest => some (w.withShift shift rest)
      | _, _, _, some count, _, .word name :: rest =>
        match shift? count name, weekday? name with
        | some shift, _ => some (w.withShift shift rest)
        | none, some day =>
          if w.weekday.isSome then none else some ({ w with weekday := some (count, day) }, rest)
        | none, none => none
      | _, _, _, _, some hours, .number (some isBehind) digits :: rest =>
        if w.zone.isSome then none
        else
          match rest with
          | .word name :: after =>
            let count : Int := if isBehind then -(decimal digits : Nat) else decimal digits
            match shift? count name with
            | some shift => some ({ w with zone := some (3600 * hours) }.withShift shift after)
            | none =>
              let (seconds, rest) := offset isBehind digits rest
              some ({ w with zone := some (3600 * hours + seconds) }, rest)
          | _ =>
            let (seconds, rest) := offset isBehind digits rest
            some ({ w with zone := some (3600 * hours + seconds) }, rest)
      | _, _, _, _, some hours, rest =>
        if w.zone.isSome then none else some ({ w with zone := some (3600 * hours) }, rest)
      | _, _, _, _, _, _ => none

/-- Takes up all pieces. The first argument bounds their number. -/
def read : Nat → DateWords → List DateToken → Option DateWords
  | _, w, [] => some w
  | 0, _, _ => none
  | fuel + 1, w, token :: rest => do
    let (w, rest) ← match token with
      | .number none digits => w.withNumber digits rest
      | .number (some isBehind) digits =>
        match rest with
        | .word name :: rest =>
          let count : Int := if isBehind then -(decimal digits : Nat) else decimal digits
          (shift? count name).map fun shift => w.withShift shift rest
        | _ => none
      | .word word => w.withWord word rest
      | .mark _ => none
    read fuel w rest

/-- The moment that is meant at some time. -/
def moment? (w : DateWords) (now : Files.Moment) : Option Files.Moment := do
  let today := Files.Date.ofMoment now
  let (month, day) := w.day.getD (today.month, today.day)
  let start : Files.Date := { year := w.year.getD today.year, month, day }
  if !start.isValid then failure
  let ofDay : Int :=
    now - today.moment + (3600 * today.hour + 60 * today.minute + today.second : Nat)
    * (Files.secondLength : Int)
  let keepsTime := w.time.isNone && w.hasShift && w.day.isNone && w.weekday.isNone
  let time : Int := match w.time with
    | some (seconds, fraction) => seconds * Files.secondLength + fraction
    | none => if keepsTime then ofDay else 0
  let months := start.year * 12 + (start.month - 1 : Nat) + w.months
  let first : Files.Date := { year := months / 12, month := (months % 12).toNat + 1, day := 1 }
  let days := first.days + (start.day - 1 : Nat) + w.days
  let days := match w.weekday, w.day with
    | some (count, weekday), none =>
      let own := ((days + 4) % 7).toNat
      let ahead : Int := (weekday + 7 - own) % 7
      let weeks := count - if 0 < count && own ≠ weekday then 1 else 0
      days + ahead + 7 * weeks
    | _, _ => days
  return (days * 86400 - w.zone.getD 0 + w.seconds) * Files.secondLength + time

end DateWords

/-- The moment that a text names. -/
def moment (now : Files.Moment) (text : Bytes) : Option Files.Moment :=
  match text with
  | 0x40 :: digits =>
    let (whole, fraction) := Bytes.breakAt 0x2E digits
    if (fraction.getD []).all isDigit then
      (integer? whole).map fun seconds =>
        seconds * Files.secondLength + DateWords.fractionOf (fraction.getD [])
    else none
  | _ => do
    let words ← DateWords.read (text.length + 1) {} (DateWords.tokens (text.length + 1) text)
    words.moment? now

end Intercept.Shell.Tool
