import SignalGenerator.Calendar.Instant

/-!
Lengths of time in whole microseconds. A length given in seconds is rounded to the nearest one, a
half going to the even neighbour.
-/

namespace SignalGenerator

/-- A length of time, negative when it leads back. -/
structure Interval where
  microseconds : Int
deriving DecidableEq

namespace Interval

/-- One million. -/
def million : Binary64 := Binary64.ofInt 1000000

/-- The sum of a whole number and a fraction between -1 and 1, rounded; a half goes to the even
neighbour. -/
def roundSum (whole : Int) (fraction : Binary64) : Int :=
  let distance := fraction.abs.place
  let step : Int := if fraction.isNegative then -1 else 1
  let middle := Number.half.place
  if middle.isLess distance || (distance.isSame middle && whole % 2 != 0) then whole + step
  else whole

/-- Microseconds in so many seconds. The whole seconds count exactly; the fraction of a second is
multiplied as binary64 numbers are. -/
def microsecondsIn : Number → Except ArithmeticFault Int
  | .integer n => .ok (n * 1000000)
  | .real .nan => .error .integerOfNan
  | .real (.infinite _) => .error .integerOfInfinity
  | .real (.finite negative units representable) =>
    let seconds := Binary64.finite negative units representable
    let product := million.mul seconds.fraction
    .ok (roundSum (seconds.truncated * 1000000 + product.truncated) product.fraction)

/-- The length of so many microseconds. Its whole days are bounded. -/
def ofMicroseconds (microseconds : Int) : Except Fault Interval :=
  let days := microseconds / Instant.microsecondsPerDay
  if days < -2147483648 ∨ 2147483647 < days then .error .tooManyDays
  else if days < -999999999 ∨ 999999999 < days then .error (.daysOutOfRange days)
  else .ok ⟨microseconds⟩

/-- The length of so many seconds. -/
def ofSeconds (seconds : Number) : Except Fault Interval :=
  match microsecondsIn seconds with
  | .error fault => .error (.arithmetic fault)
  | .ok microseconds => ofMicroseconds microseconds

end Interval

/-- The point in time after an interval, if the calendar has it. -/
def Instant.plus (instant : Instant) (interval : Interval) : Except Fault Instant :=
  let sum := (instant.microseconds : Int) + interval.microseconds
  if sum < 0 ∨ Instant.endOfCalendar ≤ sum then .error .dateOutOfRange else .ok ⟨sum.toNat⟩

end SignalGenerator
