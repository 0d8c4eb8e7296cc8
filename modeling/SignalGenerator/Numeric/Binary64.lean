/-!
Binary64 numbers as exact integers. A finite number is a sign and a magnitude counted in units of
2^-1074, the smallest positive one, so comparisons and sums are integer arithmetic. Every operation
takes the exact result and rounds it once, to the nearest representable magnitude, a half going to
the even neighbour.
-/

namespace SignalGenerator

/-- The number of units in one. -/
def unitsPerOne : Nat := Nat.pow 2 1074

/-- The distance between neighbouring magnitudes around `units`: a magnitude has 53 significant
bits. -/
def spacing (units : Nat) : Nat := Nat.pow 2 (units.log2 - 52)

/-- A magnitude of a finite number: below 2^1024, on the grid that its size allows. -/
def Representable (units : Nat) : Prop := units < Nat.pow 2 2098 ∧ spacing units ∣ units

instance (units : Nat) : Decidable (Representable units) := by
  unfold Representable
  infer_instance

/-- A binary64 number. Zero has a sign, as the standard asks. -/
inductive Binary64
  | finite (negative : Bool) (units : Nat) (representable : Representable units)
  | infinite (negative : Bool)
  | nan
deriving DecidableEq

/-- The integer nearest to `num / den`, a half going to the even neighbour. -/
def nearestEven (num den : Nat) : Nat :=
  let quotient := num / den
  let rest := num % den
  if 2 * rest < den then quotient
  else if den < 2 * rest then quotient + 1
  else quotient + quotient % 2

/-- The magnitude nearest to `num / den` units on the grid around it. -/
def roundUnits (num den : Nat) : Nat :=
  let step := spacing (num / den)
  nearestEven num (den * step) * step

/-- Where a number lies on the line, in units. A number that is not a number lies nowhere. -/
inductive Place
  | below
  | units (signed : Int)
  | above
  | nowhere
deriving DecidableEq

/-- Strictly to the left. Nothing is to the left of nowhere, and nowhere is to the left of
nothing. -/
def Place.isLess : Place → Place → Bool
  | .below, .units _ => true
  | .below, .above => true
  | .units _, .above => true
  | .units a, .units b => decide (a < b)
  | _, _ => false

/-- At the same place. Nowhere is not the same place as itself. -/
def Place.isSame : Place → Place → Bool
  | .nowhere, _ => false
  | a, b => decide (a = b)

namespace Binary64

/-- The finite number of this magnitude, or the infinity when the magnitude is past the last one. -/
def ofUnits (negative : Bool) (units : Nat) : Binary64 :=
  if representable : Representable units then .finite negative units representable
  else .infinite negative

/-- The number nearest to `num / den` units. -/
def ofQuotient (negative : Bool) (num den : Nat) : Binary64 :=
  ofUnits negative (roundUnits num den)

/-- The number nearest to an integer; infinite when the integer is too large. -/
def ofInt (n : Int) : Binary64 := ofQuotient (decide (n < 0)) (n.natAbs * unitsPerOne) 1

/-- The number nearest to `digits` times ten to the `exponent`. -/
def ofDecimal (negative : Bool) (digits : Nat) (exponent : Int) : Binary64 :=
  if 0 ≤ exponent then ofQuotient negative (digits * Nat.pow 10 exponent.toNat * unitsPerOne) 1
  else ofQuotient negative (digits * unitsPerOne) (Nat.pow 10 (-exponent).toNat)

def zero : Binary64 := ofUnits false 0

def isFinite : Binary64 → Bool
  | .finite .. => true
  | _ => false

/-- Whether the sign bit of a finite number or an infinity is set. -/
def isNegative : Binary64 → Bool
  | .finite negative _ _ => negative
  | .infinite negative => negative
  | .nan => false

/-- The signed count of units. -/
def signed (negative : Bool) (units : Nat) : Int := if negative then -units else units

def place : Binary64 → Place
  | .finite negative units _ => .units (signed negative units)
  | .infinite true => .below
  | .infinite false => .above
  | .nan => .nowhere

def neg : Binary64 → Binary64
  | .finite negative units representable => .finite (!negative) units representable
  | .infinite negative => .infinite (!negative)
  | .nan => .nan

def abs : Binary64 → Binary64
  | .finite _ units representable => .finite false units representable
  | .infinite _ => .infinite false
  | .nan => .nan

/-- The nearest number to the exact sum. A sum of zero is negative only when both terms are. -/
def add : Binary64 → Binary64 → Binary64
  | .nan, _ => .nan
  | _, .nan => .nan
  | .infinite a, .infinite b => if a = b then .infinite a else .nan
  | .infinite a, .finite .. => .infinite a
  | .finite .., .infinite b => .infinite b
  | .finite a x _, .finite b y _ =>
    let sum := signed a x + signed b y
    if sum = 0 then ofUnits (a && b) 0 else ofQuotient (decide (sum < 0)) sum.natAbs 1

def sub (x y : Binary64) : Binary64 := x.add y.neg

def mul : Binary64 → Binary64 → Binary64
  | .nan, _ => .nan
  | _, .nan => .nan
  | .infinite a, .infinite b => .infinite (a != b)
  | .infinite a, .finite b y _ => if y = 0 then .nan else .infinite (a != b)
  | .finite a x _, .infinite b => if x = 0 then .nan else .infinite (a != b)
  | .finite a x _, .finite b y _ => ofQuotient (a != b) (x * y) unitsPerOne

/-- The nearest number to the exact quotient. -/
def div : Binary64 → Binary64 → Binary64
  | .nan, _ => .nan
  | _, .nan => .nan
  | .infinite _, .infinite _ => .nan
  | .infinite a, .finite b _ _ => .infinite (a != b)
  | .finite a _ _, .infinite b => ofUnits (a != b) 0
  | .finite a x _, .finite b y _ =>
    if y = 0 then (if x = 0 then .nan else .infinite (a != b))
    else ofQuotient (a != b) (x * unitsPerOne) y

/-- What is left of `x` after taking whole multiples of `y` from it, with the sign of `x`. It is
exact. -/
def rem : Binary64 → Binary64 → Binary64
  | .finite a x _, .finite _ y _ => if y = 0 then .nan else ofUnits a (x % y)
  | .finite a x hx, .infinite _ => .finite a x hx
  | _, _ => .nan

/-- The integer part of a finite number, towards zero. -/
def truncated : Binary64 → Int
  | .finite negative units _ => signed negative (units / unitsPerOne)
  | _ => 0

/-- The part after the point, with the sign of the number. -/
def fraction : Binary64 → Binary64
  | .finite negative units _ => ofUnits negative (units % unitsPerOne)
  | x => x

end Binary64

end SignalGenerator
