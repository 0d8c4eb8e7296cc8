import SignalGenerator.Numeric.Binary64

/-!
The text of a binary64 number: the fewest significant digits that read back as the same number, and
of those the nearest. Each candidate is read back before it is taken, so whatever is written is read
as the number it was written for.
-/

namespace SignalGenerator

/-- A positive decimal number, `digits` times ten to the `exponent`. -/
structure Decimal where
  digits : Nat
  exponent : Int
deriving DecidableEq

namespace Decimal

/-- The magnitude that a reader takes the number for. -/
def units (d : Decimal) : Nat :=
  if 0 ≤ d.exponent then roundUnits (d.digits * Nat.pow 10 d.exponent.toNat * unitsPerOne) 1
  else roundUnits (d.digits * unitsPerOne) (Nat.pow 10 (-d.exponent).toNat)

/-- A magnitude over ten to the `exponent`, as a quotient. -/
def scaled (units : Nat) (exponent : Int) : Nat × Nat :=
  if 0 ≤ exponent then (units, unitsPerOne * Nat.pow 10 exponent.toNat)
  else (units * Nat.pow 10 (-exponent).toNat, unitsPerOne)

/-- Whether a magnitude is at least ten to the `exponent`. -/
def reaches (units : Nat) (exponent : Int) : Bool :=
  let (num, den) := scaled units exponent
  decide (den ≤ num)

/-- The exponent of the leading decimal digit of a magnitude. The binary logarithm gives it up to
one. -/
def leadingExponent (units : Nat) : Int :=
  let guess := ((units.log2 : Int) - 1074) * 30103 / 100000
  if reaches units (guess + 1) then guess + 1
  else if reaches units guess then guess
  else guess - 1

/-- The nearest decimal number of so many digits that reads back as the magnitude. The two
neighbours on the decimal grid are tried, since the farther one may be the one that reads back. -/
def withDigits? (units count : Nat) : Option Decimal :=
  let exponent := leadingExponent units + 1 - count
  let (num, den) := scaled units exponent
  let lower : Decimal := ⟨num / den, exponent⟩
  let upper : Decimal := ⟨num / den + 1, exponent⟩
  let (nearer, farther) :=
    if nearestEven num den = lower.digits then (lower, upper) else (upper, lower)
  if nearer.units = units then some nearer
  else if farther.units = units then some farther
  else none

/-- The magnitude without any loss: a unit is 5^1074 over 10^1074. -/
def exact (units : Nat) : Decimal := ⟨units * Nat.pow 5 1074, -1074⟩

/-- The shortest decimal number that reads back as the magnitude. Seventeen digits are enough. -/
def shortest (units : Nat) : Decimal :=
  ((List.range 17).findSome? fun i => withDigits? units (i + 1)).getD (exact units)

end Decimal

namespace Binary64

/-- Digits with a point after the first `before`, filled up with zeros on either side. One digit
stands on each side of the point at least. -/
def positional (digits : List Char) (before : Int) : List Char :=
  if 0 < before then
    let whole := before.toNat
    let fraction := digits.drop whole
    digits.take whole ++ List.replicate (whole - digits.length) '0' ++ '.' ::
      (if fraction.isEmpty then ['0'] else fraction)
  else '0' :: '.' :: List.replicate (-before).toNat '0' ++ digits

/-- Digits with a point after the first one, and the exponent with its sign and two digits at
least. -/
def scientific (digits : List Char) (exponent : Int) : List Char :=
  let fraction := digits.drop 1
  let power := Nat.toDigits 10 exponent.natAbs
  digits.take 1 ++ (if fraction.isEmpty then [] else '.' :: fraction) ++
    'e' :: (if exponent < 0 then '-' else '+') :: List.replicate (2 - power.length) '0' ++ power

/-- The text of a magnitude. Positional for a leading exponent from -4 up to 15. -/
def magnitudeText (units : Nat) : List Char :=
  if units = 0 then ['0', '.', '0'] else
  let decimal := Decimal.shortest units
  let written := Nat.toDigits 10 decimal.digits
  let leading := decimal.exponent + written.length - 1
  let digits := (written.reverse.dropWhile (· == '0')).reverse
  if -4 ≤ leading ∧ leading < 16 then positional digits (leading + 1)
  else scientific digits leading

/-- The text of a number: the shortest that reads back, always with a point or an exponent. -/
def text : Binary64 → String
  | .nan => "nan"
  | .infinite true => "-inf"
  | .infinite false => "inf"
  | .finite negative units _ =>
    String.ofList ((if negative then ['-'] else []) ++ magnitudeText units)

/-- The text of a number without a fraction, a half going to the even neighbour. A number that
rounds to zero keeps its sign. -/
def wholeText : Binary64 → String
  | .nan => "nan"
  | .infinite true => "-inf"
  | .infinite false => "inf"
  | .finite negative units _ =>
    (if negative then "-" else "") ++ toString (nearestEven units unitsPerOne)

end Binary64

end SignalGenerator
