import SignalGenerator.Counter.Measurement
import SignalGenerator.Instrument.Identity
import SignalGenerator.Instrument.Status

/-!
A generator on an open port. Every operation names the channel it is for, and a channel that the
generator does not have is refused before anything is written.
-/

namespace SignalGenerator

structure Generator where
  port : Port
  identity : Identity
deriving DecidableEq

namespace Generator

def defaultBaudRate : Int := 57600

/-- How the port of a generator is opened: eight data bits, no parity and one stop bit. -/
def lineSettings (baudRate : Given Int) : LineSettings :=
  ⟨baudRate, 8, "N", 1, Exchange.timeout, Exchange.timeout⟩

/-- Opens a port and asks for the model of the generator on it. If that fails the port is closed. An
interrupt passes by at once. -/
def openOn (name : Given String) (baudRate : Given Int) : Program Generator := do
  let shownName := name.text id
  let shownRate := baudRate.text toString
  Program.debug s!"Opening serial port {shownName} at {shownRate} baud"
  let port ← Program.openPort name (lineSettings baudRate)
  match ← (Identity.identify port).attempt with
  | .ok identity =>
    let megahertz := identity.megahertzText
    Program.info
      s!"Found MHINSTEK {identity.model} on {shownName} (max. frequency {megahertz} MHz)"
    return ⟨port, identity⟩
  | .error fault =>
    if fault.isOf .ordinary then Program.closePort port
    Program.fail fault

def close (generator : Generator) : Program Unit := Program.closePort generator.port

/-- Does something with a generator and closes it, whatever comes of it. -/
def closing {α : Type} (generator : Generator) (action : Program α) : Program α := do
  let outcome ← action.attempt
  generator.close
  Program.ofExcept outcome

/-- How a generator is shown. -/
def text (generator : Generator) : String :=
  s!"FunctionGenerator(port={generator.port.name}, model={generator.identity.model})"

/-- Goes on only with a channel that the generator has. -/
def onChannel {α : Type} (channel : Int) (operation : Program α) : Program α :=
  if channels.contains channel then operation else .fail (.channelOutOfRange channel)

variable (generator : Generator)

def readWaveform (channel : Int) : Program Waveform :=
  onChannel channel (Setting.readWaveform generator.port channel)

def setWaveform (channel : Int) (waveform : Waveform) : Program Unit :=
  onChannel channel (Setting.setWaveform generator.port channel waveform)

def readAttenuation (channel : Int) : Program Attenuation :=
  onChannel channel (Setting.readAttenuation generator.port channel)

def readOutput : Program Bool := Setting.readOutput generator.port

def setOutput (enabled : Bool) : Program Unit := Setting.setOutput generator.port enabled

def readFrequency (channel : Int) : Program Binary64 :=
  onChannel channel (Setting.readFrequency generator.port channel)

/-- Sets a frequency within the limits of the waveform that the channel produces. What the generator
cannot do with any waveform is refused before that waveform is read. -/
def setFrequency (channel : Int) (hertz : Number) : Program Unit :=
  onChannel channel do
    let maximum := generator.identity.maxFrequency
    let errors ← Program.ofExcept (Limits.frequencyErrors hertz .unknown maximum channel)
    Program.ofExcept (Limits.check s!"frequency {hertz.text} Hz" errors)
    let waveform ← Setting.readWaveform generator.port channel
    Setting.setFrequency generator.port channel hertz waveform maximum

def readAmplitude (channel : Int) : Program Binary64 :=
  onChannel channel (Setting.readAmplitude generator.port channel)

def setAmplitude (channel : Int) (volts : Number) : Program Unit :=
  onChannel channel (Setting.setAmplitude generator.port channel volts)

def readOffset (channel : Int) : Program Binary64 :=
  onChannel channel (Setting.readOffset generator.port channel)

def setOffset (channel : Int) (volts : Number) : Program Unit :=
  onChannel channel (Setting.setOffset generator.port channel volts)

def readPhase (channel : Int) : Program Binary64 :=
  onChannel channel (Setting.readPhase generator.port channel)

def setPhase (channel : Int) (degrees : Number) : Program Unit :=
  onChannel channel (Setting.setPhase generator.port channel degrees)

def readDutyCycle (channel : Int) : Program Binary64 :=
  onChannel channel (Setting.readDutyCycle generator.port channel)

def setDutyCycle (channel : Int) (percent : Number) : Program Unit :=
  onChannel channel (Setting.setDutyCycle generator.port channel percent)

def readStatus (channel : Int) : Program ChannelStatus :=
  onChannel channel (ChannelStatus.read generator.port channel)

def selectFunction (function : CounterFunction) : Program Unit :=
  Counter.selectFunction generator.port function

def enableCounter (enabled : Bool) : Program Unit := Counter.enable generator.port enabled

def setGateTime (gateTime : GateTime) : Program Unit := Counter.setGateTime generator.port gateTime

def readCounter : Program Int := Counter.readRegister generator.port

def measure (function : CounterFunction) : Program Binary64 :=
  Counter.measure generator.port function

end Generator

end SignalGenerator
