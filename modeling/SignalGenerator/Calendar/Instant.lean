import SignalGenerator.Fault

/-!
Points in time, counted in microseconds from the start of the year 1 of the Gregorian calendar, and
the intervals between them.
-/

namespace SignalGenerator

/-- A date and a time of day. -/
structure Civil where
  year : Nat
  month : Nat
  day : Nat
  hour : Nat
  minute : Nat
  second : Nat
  microsecond : Nat
deriving DecidableEq

/-- A point in time. -/
structure Instant where
  microseconds : Nat
deriving DecidableEq

namespace Civil

def isLeap (year : Nat) : Bool := year % 4 = 0 && (year % 100 != 0 || year % 400 = 0)

/-- The lengths of the months of a year. -/
def monthLengths (year : Nat) : List Nat :=
  [31, if isLeap year then 29 else 28, 31, 30, 31, 30, 31, 31, 30, 31, 30, 31]

/-- The days before the first day of a year. -/
def daysBefore (year : Nat) : Nat :=
  let past := year - 1
  past * 365 + past / 4 - past / 100 + past / 400

/-- The days before a date. -/
def dayNumber (date : Civil) : Nat :=
  daysBefore date.year + ((monthLengths date.year).take (date.month - 1)).foldl (· + ·) 0 + (date.day - 1)

/-- The month and the day of the month that lie so many days into the given months. -/
def inMonths (month : Nat) : (lengths : List Nat) → (days : Nat) → Nat × Nat
  | [], days => (month, days + 1)
  | length :: rest, days =>
    if days < length then (month, days + 1) else inMonths (month + 1) rest (days - length)

/-- The year of a day, and the days of that year before it. The last day of a period of four or of
four hundred years is one more than the shorter periods in it make up. -/
def yearOf (dayNumber : Nat) : Nat × Nat :=
  let inEra := dayNumber % 146097
  let century := min 3 (inEra / 36524)
  let inCentury := inEra - century * 36524
  let cycle := inCentury / 1461
  let inCycle := inCentury % 1461
  let single := min 3 (inCycle / 365)
  (dayNumber / 146097 * 400 + century * 100 + cycle * 4 + single + 1, inCycle - single * 365)

/-- A number with two digits at least. -/
def twoDigits (n : Nat) : String := if n < 10 then s!"0{n}" else toString n

/-- The last digits of a number, so many of them. -/
def lastDigits (count n : Nat) : String :=
  String.ofList ((Nat.toDigits 10 (Nat.pow 10 count + n % Nat.pow 10 count)).drop 1)

/-- A date with a year of four digits. -/
def dateText (date : Civil) : String :=
  s!"{lastDigits 4 date.year}-{twoDigits date.month}-{twoDigits date.day}"

def timeText (date : Civil) : String :=
  s!"{twoDigits date.hour}:{twoDigits date.minute}:{twoDigits date.second}"

end Civil

namespace Instant

def microsecondsPerSecond : Nat := 1000000

def secondsPerDay : Nat := 86400

def microsecondsPerDay : Nat := secondsPerDay * microsecondsPerSecond

/-- The end of the year 9999, after which no date is known. -/
def endOfCalendar : Nat := Civil.daysBefore 10000 * microsecondsPerDay

def ofCivil (date : Civil) : Instant :=
  ⟨((date.dayNumber * 24 + date.hour) * 60 + date.minute) * 60 * microsecondsPerSecond +
    date.second * microsecondsPerSecond + date.microsecond⟩

def civil (instant : Instant) : Civil :=
  let (year, days) := Civil.yearOf (instant.microseconds / microsecondsPerDay)
  let (month, day) := Civil.inMonths 1 (Civil.monthLengths year) days
  let rest := instant.microseconds % microsecondsPerDay
  let seconds := rest / microsecondsPerSecond
  ⟨year, month, day, seconds / 3600, seconds / 60 % 60, seconds % 60,
    rest % microsecondsPerSecond⟩

/-- The time as it stands in the name of a file: without colons, and with as many digits of the year
as it has. -/
def fileStamp (instant : Instant) : String :=
  let date := instant.civil
  let day := s!"{date.year}-{Civil.twoDigits date.month}-{Civil.twoDigits date.day}"
  s!"{day}--{Civil.twoDigits date.hour}-{Civil.twoDigits date.minute}-{Civil.twoDigits date.second}"

/-- The time as it stands in a table: at midnight only the date, and else as few digits after the
second as are needed, none, three or six. -/
def tableText (instant : Instant) : String :=
  let date := instant.civil
  if instant.microseconds % microsecondsPerDay = 0 then date.dateText
  else if date.microsecond = 0 then s!"{date.dateText} {date.timeText}"
  else if date.microsecond % 1000 = 0 then
    s!"{date.dateText} {date.timeText}.{Civil.lastDigits 3 (date.microsecond / 1000)}"
  else s!"{date.dateText} {date.timeText}.{Civil.lastDigits 6 date.microsecond}"

/-- The time in full. -/
def text (instant : Instant) : String :=
  let date := instant.civil
  if date.microsecond = 0 then s!"{date.dateText} {date.timeText}"
  else s!"{date.dateText} {date.timeText}.{Civil.lastDigits 6 date.microsecond}"

end Instant

end SignalGenerator
