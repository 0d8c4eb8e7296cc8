import SignalGenerator.Numeric.Decimal

/-!
Numbers as a user gives them: an exact integer, or a binary64 number. Integers among themselves stay
exact; as soon as a binary64 number takes part the integer becomes the nearest one first.
Comparisons are exact in every case.
-/

namespace SignalGenerator

/-- Why an arithmetic step has no result. -/
inductive ArithmeticFault
  | integerTooLarge
  | quotientTooLarge
  | integerOfNan
  | integerOfInfinity
  | divisionByZero
deriving DecidableEq

/-- A number with its kind: 25 and 25.0 are written differently. -/
inductive Number
  | integer (value : Int)
  | real (value : Binary64)
deriving DecidableEq

namespace Number

instance (n : Nat) : OfNat Number n := ⟨.integer n⟩

instance : Coe Binary64 Number := ⟨.real⟩

/-- A number if it is finite, and else the fault. -/
def finiteOr (fault : ArithmeticFault) (x : Binary64) : Except ArithmeticFault Binary64 :=
  if x.isFinite then .ok x else .error fault

/-- The binary64 number that takes the place of this one, if there is one. -/
def toReal : Number → Except ArithmeticFault Binary64
  | .real x => .ok x
  | .integer n => finiteOr .integerTooLarge (Binary64.ofInt n)

def place : Number → Place
  | .integer n => .units (n * unitsPerOne)
  | .real x => x.place

/-- `a` is strictly less than `b`. Never so when one of them is not a number. -/
def isLess (a b : Number) : Bool := a.place.isLess b.place

def isSame (a b : Number) : Bool := a.place.isSame b.place

/-- `a` is at most `b`. -/
def isAtMost (a b : Number) : Bool := a.isLess b || a.isSame b

/-- The first of two numbers, unless the second is strictly less. -/
def least (a b : Number) : Number := if b.isLess a then b else a

/-- The first of two numbers, unless the second is strictly greater. -/
def greatest (a b : Number) : Number := if a.isLess b then b else a

def text : Number → String
  | .integer n => toString n
  | .real x => x.text

/-- Whether a number is finite. An integer has to fit a binary64 number to be asked. -/
def isFinite (a : Number) : Except ArithmeticFault Bool := return (← a.toReal).isFinite

def add : Number → Number → Except ArithmeticFault Number
  | .integer a, .integer b => .ok (.integer (a + b))
  | a, b => return .real ((← a.toReal).add (← b.toReal))

def sub : Number → Number → Except ArithmeticFault Number
  | .integer a, .integer b => .ok (.integer (a - b))
  | a, b => return .real ((← a.toReal).sub (← b.toReal))

def mul : Number → Number → Except ArithmeticFault Number
  | .integer a, .integer b => .ok (.integer (a * b))
  | a, b => return .real ((← a.toReal).mul (← b.toReal))

/-- The quotient of two integers, rounded once. -/
def quotient (a b : Int) : Except ArithmeticFault Binary64 :=
  if b = 0 then .error .divisionByZero
  else finiteOr .quotientTooLarge
    (.ofQuotient (decide (a < 0) != decide (b < 0)) (a.natAbs * unitsPerOne) b.natAbs)

/-- The quotient as a binary64 number, also of two integers. -/
def div : Number → Number → Except ArithmeticFault Binary64
  | .integer a, .integer b => quotient a b
  | a, b => do
    let x ← a.toReal
    let y ← b.toReal
    if y.place.isSame (.units 0) then throw .divisionByZero
    return x.div y

def abs : Number → Number
  | .integer n => .integer n.natAbs
  | .real x => .real x.abs

/-- Whether a number has a minus sign, also in front of a zero. -/
def isNegative : Number → Bool
  | .integer n => decide (n < 0)
  | .real x => x.isNegative

/-- The largest integer not above a number. -/
def floorOf : Binary64 → Except ArithmeticFault Int
  | .nan => .error .integerOfNan
  | .infinite _ => .error .integerOfInfinity
  | .finite negative units _ => .ok (Binary64.signed negative units / unitsPerOne)

/-- One half. -/
def half : Binary64 := Binary64.ofDecimal false 5 (-1)

/-- Rounds to an integer, halves away from zero: one half is added to the magnitude, as binary64
numbers are added, and the fraction is dropped. -/
def roundAway (a : Number) : Except ArithmeticFault Int := do
  let magnitude ← a.abs.toReal
  let whole ← floorOf (magnitude.add half)
  return if a.isNegative then -whole else whole

end Number

end SignalGenerator
