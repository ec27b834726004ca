import Intercept.Files.Tree

/-!
# Dates

A moment is counted from the beginning of the year 1970, without leap seconds. A date is the day and
the time of day of a moment, in the calendar in which every fourth year is a leap year, but of those
that end a century only every fourth.
-/

namespace Intercept.Files

/-- The number of units in a second. -/
def secondLength : Nat := 1000000000

/-- The moment at which the host system starts: the beginning of February 2026. -/
def firstMoment : Moment := 1769904000 * (secondLength : Int)

structure Date where
  year : Int
  month : Nat
  day : Nat
  hour : Nat := 0
  minute : Nat := 0
  second : Nat := 0
  deriving DecidableEq, Repr

namespace Date

def isLeap (year : Int) : Bool := year % 4 = 0 && (year % 100 ≠ 0 || year % 400 = 0)

/-- The lengths of the months of a year. -/
def monthLengths (year : Int) : List Nat :=
  [31, if isLeap year then 29 else 28, 31, 30, 31, 30, 31, 31, 30, 31, 30, 31]

/-- The number of days from the beginning of 1970 to that of a year. -/
def daysBefore (year : Int) : Int :=
  let last := year - 1
  365 * (year - 1970) + (last / 4 - 492) - (last / 100 - 19) + (last / 400 - 4)

/-- The number of days in a year before a month. -/
def daysBeforeMonth (year : Int) (month : Nat) : Nat :=
  ((monthLengths year).take (month - 1)).foldl (· + ·) 0

/-- Whether the date is one of the calendar. A second may be one too many. -/
def isValid (d : Date) : Bool :=
  1 ≤ d.month && d.month ≤ 12 && 1 ≤ d.day &&
    d.day ≤ ((monthLengths d.year)[d.month - 1]?).getD 0 &&
    d.hour < 24 && d.minute < 60 && d.second ≤ 60

/-- The day of the year, from zero on. -/
def dayOfYear (d : Date) : Nat := daysBeforeMonth d.year d.month + d.day - 1

/-- The number of days since the beginning of 1970. -/
def days (d : Date) : Int := daysBefore d.year + d.dayOfYear

/-- The day of the week, Sunday being zero. -/
def weekday (d : Date) : Nat := ((d.days + 4) % 7).toNat

/-- The number of seconds since the beginning of 1970. -/
def seconds (d : Date) : Int := d.days * 86400 + d.hour * 3600 + d.minute * 60 + d.second

/-- The moment at which the date begins. -/
def moment (d : Date) : Moment := d.seconds * secondLength

/-- The month and the day of a day of the year, given the lengths of the months from one on. -/
def monthAndDay (month : Nat) : List Nat → Nat → Nat × Nat
  | [], day => (month, day + 1)
  | length :: lengths, day =>
    if day < length then (month, day + 1) else monthAndDay (month + 1) lengths (day - length)

/-- The date of a number of seconds since the beginning of 1970. -/
def ofSeconds (seconds : Int) : Date :=
  let days := seconds / 86400
  let rest := (seconds % 86400).toNat
  let least := 1970 + (if 0 ≤ days then days / 366 else days / 365 - 1)
  let years := (List.range (days.natAbs / 100000 + 4)).map fun (n : Nat) => least + n
  let year := (years.reverse.find? fun year => daysBefore year ≤ days).getD least
  let (month, day) := monthAndDay 1 (monthLengths year) (days - daysBefore year).toNat
  { year, month, day, hour := rest / 3600, minute := rest / 60 % 60, second := rest % 60 }

/-- The date of a moment. -/
def ofMoment (moment : Moment) : Date := ofSeconds (moment / secondLength)

/-- The week of the year, whose first begins with the first day of weeks that is in it. -/
def weekFrom (d : Date) (firstDay : Nat) : Nat :=
  (d.dayOfYear + 7 - (d.weekday + 7 - firstDay) % 7) / 7

/-- The week and its year, where weeks begin on Mondays and belong to the year of their
Thursdays. -/
def weekAndYear (d : Date) : Nat × Int :=
  let thursday := ofSeconds ((d.days + 3 - ((d.weekday + 6) % 7 : Nat)) * 86400)
  (thursday.dayOfYear / 7 + 1, thursday.year)

def monthNames : List String :=
  ["January", "February", "March", "April", "May", "June", "July", "August", "September",
    "October", "November", "December"]

def weekdayNames : List String :=
  ["Sunday", "Monday", "Tuesday", "Wednesday", "Thursday", "Friday", "Saturday"]

end Date

end Intercept.Files
