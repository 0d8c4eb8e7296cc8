import SignalGenerator.Instrument.Generator

/-!
The operations on a generator as data, for histories of operations in any order.
-/

namespace SignalGenerator

inductive Operation
  | readWaveform (channel : Int)
  | setWaveform (channel : Int) (waveform : Waveform)
  | readAttenuation (channel : Int)
  | readOutput
  | setOutput (enabled : Bool)
  | readFrequency (channel : Int)
  | setFrequency (channel : Int) (hertz : Number)
  | readAmplitude (channel : Int)
  | setAmplitude (channel : Int) (volts : Number)
  | readOffset (channel : Int)
  | setOffset (channel : Int) (volts : Number)
  | readPhase (channel : Int)
  | setPhase (channel : Int) (degrees : Number)
  | readDutyCycle (channel : Int)
  | setDutyCycle (channel : Int) (percent : Number)
  | readStatus (channel : Int)
  | selectFunction (function : CounterFunction)
  | enableCounter (enabled : Bool)
  | setGateTime (gateTime : GateTime)
  | readCounter
  | measure (function : CounterFunction)
deriving DecidableEq

/-- What an operation gives back. -/
inductive Reading
  | done
  | waveform (waveform : Waveform)
  | attenuation (attenuation : Attenuation)
  | enabled (enabled : Bool)
  | value (value : Binary64)
  | status (status : ChannelStatus)
  | register (raw : Int)
deriving DecidableEq

namespace Operation

/-- An operation that gives nothing back. -/
def silent (program : Program Unit) : Program Reading := program.bind fun _ => .result .done

/-- An operation that gives one thing back. -/
def giving {α : Type} (reading : α → Reading) (program : Program α) : Program Reading :=
  program.bind fun value => .result (reading value)

def perform (generator : Generator) : Operation → Program Reading
  | readWaveform channel => giving .waveform (generator.readWaveform channel)
  | setWaveform channel waveform => silent (generator.setWaveform channel waveform)
  | readAttenuation channel => giving .attenuation (generator.readAttenuation channel)
  | readOutput => giving .enabled generator.readOutput
  | setOutput enabled => silent (generator.setOutput enabled)
  | readFrequency channel => giving .value (generator.readFrequency channel)
  | setFrequency channel hertz => silent (generator.setFrequency channel hertz)
  | readAmplitude channel => giving .value (generator.readAmplitude channel)
  | setAmplitude channel volts => silent (generator.setAmplitude channel volts)
  | readOffset channel => giving .value (generator.readOffset channel)
  | setOffset channel volts => silent (generator.setOffset channel volts)
  | readPhase channel => giving .value (generator.readPhase channel)
  | setPhase channel degrees => silent (generator.setPhase channel degrees)
  | readDutyCycle channel => giving .value (generator.readDutyCycle channel)
  | setDutyCycle channel percent => silent (generator.setDutyCycle channel percent)
  | readStatus channel => giving .status (generator.readStatus channel)
  | selectFunction function => silent (generator.selectFunction function)
  | enableCounter enabled => silent (generator.enableCounter enabled)
  | setGateTime gateTime => silent (generator.setGateTime gateTime)
  | readCounter => giving .register generator.readCounter
  | measure function => giving .value (generator.measure function)

end Operation

end SignalGenerator
