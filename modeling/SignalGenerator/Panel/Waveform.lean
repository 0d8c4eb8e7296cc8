import SignalGenerator.Numeric.Number

/-!
The waveforms that a channel can produce and what can be set for each of them. Every waveform has a
number on the line, fixed by the generator; a number without a waveform reads as unknown.
-/

namespace SignalGenerator

inductive Waveform
  | sine
  | square
  | triangle
  | risingSawtooth
  | fallingSawtooth
  | arbitrary0
  | unknown
deriving DecidableEq

/-- A setting that some waveforms have and some do not. -/
inductive Adjustment
  | frequency
  | amplitude
  | offset
  | phase
  | dutyCycle
deriving DecidableEq

namespace Waveform

def all : List Waveform :=
  [sine, square, triangle, risingSawtooth, fallingSawtooth, arbitrary0, unknown]

/-- The number of a waveform on the line. -/
def id : Waveform → Nat
  | sine => 0
  | square => 1
  | triangle => 2
  | risingSawtooth => 3
  | fallingSawtooth => 4
  | arbitrary0 => 100
  | unknown => 1000

/-- The waveform with this number, or unknown. -/
def ofId (id : Int) : Waveform := (all.find? fun w => decide ((w.id : Int) = id)).getD unknown

def name : Waveform → String
  | sine => "Sine"
  | square => "Square"
  | triangle => "Triangle"
  | risingSawtooth => "Rising Sawtooth"
  | fallingSawtooth => "Falling Sawtooth"
  | arbitrary0 => "Arbitrary 0"
  | unknown => "Unknown"

/-- The small letter of a character. Beyond ASCII only the Kelvin sign has a small letter that
occurs in a name, the `k`. -/
def smallLetter (c : Char) : Char := if c.toNat = 0x212a then 'k' else c.toLower

/-- What identifies a name: its letters and digits in lower case, without spaces, dashes and
underscores. -/
def nameKey (name : String) : List Char :=
  (name.toList.map smallLetter).filter fun c => !(c = ' ' || c = '-' || c = '_')

/-- The waveform of this name. -/
def ofName? (name : String) : Option Waveform :=
  all.find? fun w => decide (nameKey w.name = nameKey name)

end Waveform

/-- What a channel can do with one waveform. -/
structure WaveformRange where
  waveform : Waveform
  lowest : Binary64
  highest : Binary64
  step : Binary64
  adjustments : List Adjustment

structure ChannelTable where
  name : String
  waveforms : List WaveformRange

/-- The numbers of the two channels. -/
def channels : List Int := [1, 2]

/-- A millionth of a hertz, the finest step and the lowest frequency. -/
def microhertz : Binary64 := Binary64.ofDecimal false 1 (-6)

/-- A whole number of megahertz. -/
def megahertz (count : Nat) : Binary64 := Binary64.ofInt (count * 1000000)

/-- What can be adjusted for every waveform of the table. -/
def commonAdjustments : List Adjustment := [.frequency, .amplitude, .offset, .phase]

/-- The waveforms of a channel. The sine goes up to the highest frequency of any model and the
others to ten megahertz; only the square has a duty cycle. -/
def waveformTable : List WaveformRange := [
  ⟨.sine, microhertz, megahertz 25, microhertz, commonAdjustments⟩,
  ⟨.square, microhertz, megahertz 10, microhertz, commonAdjustments ++ [.dutyCycle]⟩,
  ⟨.triangle, microhertz, megahertz 10, microhertz, commonAdjustments⟩,
  ⟨.risingSawtooth, microhertz, megahertz 10, microhertz, commonAdjustments⟩,
  ⟨.fallingSawtooth, microhertz, megahertz 10, microhertz, commonAdjustments⟩]

/-- The table of a channel, if there is such a channel. -/
def channelTable? (channel : Int) : Option ChannelTable :=
  if channel = 1 then some ⟨"CH1", waveformTable⟩
  else if channel = 2 then some ⟨"CH2", waveformTable⟩
  else none

/-- The entry of a waveform in the table of a channel. -/
def ChannelTable.find? (table : ChannelTable) (waveform : Waveform) : Option WaveformRange :=
  table.waveforms.find? fun entry => decide (entry.waveform = waveform)

end SignalGenerator
