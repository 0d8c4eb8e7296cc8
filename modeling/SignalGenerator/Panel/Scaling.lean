import SignalGenerator.Fault
import SignalGenerator.Panel.Attenuation

/-!
How settings are scaled on the line. Frequencies go in hundredths of a hertz, amplitudes in
hundredths of a volt, or thousandths when the output is attenuated, duty cycles in tenths of a
percent, phases in whole degrees, and offsets in percent of the amplitude, raised by 120 so that they
are never negative.
-/

namespace SignalGenerator.Scaling

def decodeFrequency (raw : Int) : Except ArithmeticFault Binary64 := Number.quotient raw 100

def encodeFrequency (hertz : Number) : Except ArithmeticFault Int := do
  (← hertz.mul 100).roundAway

def decodeAmplitude (raw : Int) (attenuation : Attenuation) : Except ArithmeticFault Binary64 := do
  let volts ← Number.quotient raw 100
  match attenuation with
  | .minusTwenty => Number.div volts 10
  | .zero => return volts

def encodeAmplitude (volts : Number) (attenuation : Attenuation) : Except ArithmeticFault Int :=
  match attenuation with
  | .minusTwenty => do (← volts.mul 1000).roundAway
  | .zero => do (← volts.mul 100).roundAway

def decodeDutyCycle (raw : Int) : Except ArithmeticFault Binary64 := Number.quotient raw 10

def encodeDutyCycle (percent : Number) : Except ArithmeticFault Int := do
  (← percent.mul 10).roundAway

/-- What is added to the percentage of an offset on the line. -/
def offsetBias : Int := 120

/-- The offset in volts for a percentage of the amplitude. -/
def decodeOffset (raw : Int) (amplitude : Number) : Except ArithmeticFault Binary64 := do
  (← amplitude.mul (.integer (raw - offsetBias))).div 100

def hundred : Binary64 := Binary64.ofInt 100

/-- An offset as a percentage of the amplitude. Without an amplitude only no offset at all has
one. -/
def offsetPercent (offset amplitude : Number) : Except Fault Binary64 :=
  if amplitude.isSame 0 then
    if offset.isSame 0 then .ok Binary64.zero else .error (.offsetWithoutAmplitude offset)
  else
    (do return (← offset.div amplitude).mul hundred : Except ArithmeticFault Binary64).mapError
      .arithmetic

def encodeOffsetPercent (percent : Number) : Except ArithmeticFault Int := do
  (← percent.add (.integer offsetBias)).roundAway

/-- A full turn, in degrees. -/
def fullTurn : Binary64 := Binary64.ofInt 360

/-- Repeats a step as long as a condition holds, at most `limit` times. -/
def repeatWhile {α : Type} (condition : α → Bool) (step : α → α) : (limit : Nat) → α → α
  | 0, value => value
  | limit + 1, value =>
    if condition value then repeatWhile condition step limit (step value) else value

/-- The angle from 0 up to a full turn that a phase stands for. The remainder of whole turns is less
than a turn away from zero, so that it takes one more turn at most in either direction. -/
def wrapAngle (degrees : Binary64) : Binary64 :=
  let remainder := Binary64.zero.add ((degrees.sub Binary64.zero).rem fullTurn)
  let raised := repeatWhile (fun x => x.place.isLess Binary64.zero.place) (·.add fullTurn) 2 remainder
  repeatWhile (fun x => !x.place.isLess fullTurn.place) (·.sub fullTurn) 2 raised

/-- A phase brought into the range from 0 up to 360 degrees. It has to be finite. -/
def normalizePhase (degrees : Number) : Except Fault Binary64 :=
  match degrees.toReal with
  | .error fault => .error (.arithmetic fault)
  | .ok angle =>
    if angle.isFinite then .ok (wrapAngle angle)
    else .error (.notFinite s!"phase {degrees.text} degrees")

/-- The degree nearest to a phase. The nearest one may be 360, which is 0 again. -/
def encodePhase (degrees : Number) : Except Fault Int := do
  let angle ← normalizePhase degrees
  let nearest ← (Number.real angle).roundAway.mapError .arithmetic
  return nearest % 360

end SignalGenerator.Scaling
