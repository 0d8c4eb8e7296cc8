import SignalGenerator.Numeric.Number

/-!
What the built-in counter can measure and for how long it counts. The counter has one register; what
is in it depends on the function that was selected last.
-/

namespace SignalGenerator

inductive CounterFunction
  | frequency
  | period
  | pulseWidth
  | dutyCycle
deriving DecidableEq

/-- How long the counter counts for one measurement. -/
inductive GateTime
  | oneSecond
  | tenSeconds
  | tenMilliseconds
  | hundredMilliseconds
deriving DecidableEq

/-- One measured value with what it is a value of. -/
structure Sample where
  quantity : String
  value : Binary64
  unit : String
deriving DecidableEq

namespace CounterFunction

/-- The number of a function on the line. -/
def id : CounterFunction → Nat
  | .frequency => 0
  | .period => 2
  | .pulseWidth => 3
  | .dutyCycle => 4

def quantity : CounterFunction → String
  | .frequency => "frequency"
  | .period => "period"
  | .pulseWidth => "pulse width"
  | .dutyCycle => "duty cycle"

def unit : CounterFunction → String
  | .frequency => "Hz"
  | .period => "s"
  | .pulseWidth => "s"
  | .dutyCycle => "%"

def text (function : CounterFunction) : String :=
  s!"CounterFunction #{function.id}: {function.quantity} ({function.unit})"

/-- The order in which one poll goes through the functions. -/
def pollingOrder : List CounterFunction := [.frequency, .period, .dutyCycle, .pulseWidth]

/-- One nanosecond, in seconds. -/
def nanosecond : Binary64 := Binary64.ofDecimal false 1 (-9)

/-- The value of the register in the unit of the function. The register counts tenths of a hertz,
nanoseconds, or tenths of a percent. -/
def decode (function : CounterFunction) (raw : Int) : Except ArithmeticFault Binary64 :=
  match function with
  | .period | .pulseWidth => return (← (Number.integer raw).toReal).mul nanosecond
  | .frequency | .dutyCycle => Number.quotient raw 10

end CounterFunction

/-- The number of a gate time on the line. -/
def GateTime.id : GateTime → Nat
  | .oneSecond => 0
  | .tenSeconds => 1
  | .tenMilliseconds => 2
  | .hundredMilliseconds => 3

end SignalGenerator
