import SignalGenerator.Line.Command
import SignalGenerator.Line.Exchange
import SignalGenerator.Panel.Limits
import SignalGenerator.Panel.Scaling

/-!
Reading and writing one setting of a channel. A value that may not be set is refused before anything
is written. To read an amplitude takes the attenuation, and to read or write an offset takes the
amplitude, so these make further exchanges first.
-/

namespace SignalGenerator.Setting

def read (port : Port) (command : Command) : Program Int := Exchange.queryInteger port command.text

def write (port : Port) (command : Command) : Program Unit := Exchange.order port command.text

def readWaveform (port : Port) (channel : Int) : Program Waveform := do
  return .ofId (← read port (.read channel .waveform))

def setWaveform (port : Port) (channel : Int) (waveform : Waveform) : Program Unit :=
  match waveform with
  | .unknown => .fail .unknownWaveform
  | waveform => write port (.set channel .waveform waveform.id)

def readAttenuation (port : Port) (channel : Int) : Program Attenuation := do
  let id ← read port (.read channel .attenuation)
  match Attenuation.ofId? id with
  | some attenuation => return attenuation
  | none => Program.fail (.unknownAttenuation id)

def readOutput (port : Port) : Program Bool := do
  return (← read port .readOutput) ≠ 0

def setOutput (port : Port) (enabled : Bool) : Program Unit := write port (.setOutput enabled)

def readFrequency (port : Port) (channel : Int) : Program Binary64 := do
  let raw ← read port (.read channel .frequency)
  Program.ofArithmetic (Scaling.decodeFrequency raw)

/-- Sets a frequency within the limits of the waveform and of the model. -/
def setFrequency (port : Port) (channel : Int) (hertz : Number) (waveform : Waveform)
    (maximum : Number) : Program Unit := do
  let errors ← Program.ofExcept (Limits.frequencyErrors hertz waveform maximum channel)
  Program.ofExcept (Limits.check s!"frequency {hertz.text} Hz" errors)
  let raw ← Program.ofArithmetic (Scaling.encodeFrequency hertz)
  write port (.set channel .frequency raw)

def readAmplitude (port : Port) (channel : Int) : Program Binary64 := do
  let attenuation ← readAttenuation port channel
  let raw ← read port (.read channel .amplitude)
  Program.ofArithmetic (Scaling.decodeAmplitude raw attenuation)

/-- Sets an amplitude in volts, scaled for the attenuation that is read just before. -/
def setAmplitude (port : Port) (channel : Int) (volts : Number) : Program Unit := do
  let errors ← Program.ofArithmetic (Limits.amplitudeErrors volts)
  Program.ofExcept (Limits.check s!"amplitude {volts.text} V" errors)
  let attenuation ← readAttenuation port channel
  let raw ← Program.ofArithmetic (Scaling.encodeAmplitude volts attenuation)
  write port (.set channel .amplitude raw)

def readDutyCycle (port : Port) (channel : Int) : Program Binary64 := do
  let raw ← read port (.read channel .dutyCycle)
  Program.ofArithmetic (Scaling.decodeDutyCycle raw)

def setDutyCycle (port : Port) (channel : Int) (percent : Number) : Program Unit := do
  let errors ← Program.ofArithmetic (Limits.dutyCycleErrors percent)
  Program.ofExcept (Limits.check s!"duty cycle {percent.text}%" errors)
  let raw ← Program.ofArithmetic (Scaling.encodeDutyCycle percent)
  write port (.set channel .dutyCycle raw)

def readOffset (port : Port) (channel : Int) : Program Binary64 := do
  let amplitude ← readAmplitude port channel
  let raw ← read port (.read channel .offset)
  Program.ofArithmetic (Scaling.decodeOffset raw amplitude)

/-- Sets an offset in volts. Only its share of the amplitude can be sent, so the amplitude is read
first, and the share is limited. -/
def setOffset (port : Port) (channel : Int) (volts : Number) : Program Unit := do
  let finite ← Program.ofArithmetic volts.isFinite
  if !finite then Program.fail (.notFinite s!"offset {volts.text} V")
  let amplitude ← readAmplitude port channel
  let percent ← Program.ofExcept (Scaling.offsetPercent volts amplitude)
  let errors ← Program.ofArithmetic (Limits.offsetPercentErrors percent)
  Program.ofExcept (Limits.check s!"offset {volts.text} V at amplitude {amplitude.text} V" errors)
  let raw ← Program.ofArithmetic (Scaling.encodeOffsetPercent percent)
  write port (.set channel .offset raw)

def readPhase (port : Port) (channel : Int) : Program Binary64 := do
  let raw ← read port (.read channel .phase)
  Program.ofArithmetic (Number.integer raw).toReal

/-- Sets a phase in degrees. Every finite phase is taken as the angle it stands for. -/
def setPhase (port : Port) (channel : Int) (degrees : Number) : Program Unit := do
  let raw ← Program.ofExcept (Scaling.encodePhase degrees)
  write port (.set channel .phase raw)

/-- Reads whatever can be adjusted, in its unit. -/
def readAdjustment (port : Port) (channel : Int) : Adjustment → Program Binary64
  | .frequency => readFrequency port channel
  | .amplitude => readAmplitude port channel
  | .offset => readOffset port channel
  | .phase => readPhase port channel
  | .dutyCycle => readDutyCycle port channel

end SignalGenerator.Setting
