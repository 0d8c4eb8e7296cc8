import SignalGenerator.Acquisition.Configuration
import SignalGenerator.Acquisition.Retry
import SignalGenerator.Acquisition.Schedule
import SignalGenerator.Record.Recording

/-!
A whole acquisition: open the generator, set up a channel, record its settings, poll the counter until
a limit is reached, and shut down. However it ends, the counter is turned off if it may be on, and the
port is closed.
-/

namespace SignalGenerator.Acquisition

/-- The longest pause before a generator is opened again, in seconds. -/
def longestPause : Number := .real (Binary64.ofDecimal false 1 (-1))

/-- Opens a generator, again if the exchange with it fails. -/
def openPersistently (name : Given String) (baudRate : Given Int) : Program Generator := do
  let pause := do
    Program.info "Retrying after error"
    Program.pauseAtMost longestPause
  let policy := RetryPolicy.exchanges
  let call := (Generator.openOn name baudRate).attempt
  Program.ofExcept (← policy.repeating call pause (policy.furtherCalls 0))

/-- Does something with a setting that was given, and nothing without one. -/
def forSetting {α : Type} (setting : Option α) (action : α → Program Unit) : Program Unit :=
  match setting with
  | some value => action value
  | none => .result ()

/-- Announces a setting of the channel and writes it, if it was given. -/
def applySetting {α : Type} (channel : Given Int) (parameter : Parameter) (quantity unit : String)
    (shown : α → String) (setting : Option (Given α)) (write : Int → α → Program Unit) :
    Program Unit :=
  forSetting setting fun given => do
    let number := channel.text toString
    Program.info s!"Setting channel {number} {quantity}: {given.text shown}{unit}"
    write (← Program.ofExcept (channel.demand .channel))
      (← Program.ofExcept (given.demand parameter))

/-- Whether an output that was given is to be on. No value stands for off. -/
def isOn : Given Bool → Bool
  | .value enabled => enabled
  | .blank => false

/-- Writes the settings that were given: the waveform before the frequency that it limits, and the
amplitude before the offset that is a share of it. -/
def applySettings (generator : Generator) (arguments : Arguments) : Program Unit := do
  let channel := arguments.channel
  applySetting channel .waveform "waveform" "" (·.name) arguments.waveform
    fun channel waveform => generator.setWaveform channel waveform
  applySetting channel .frequency "frequency" " Hz" (·.text) arguments.frequency
    fun channel hertz => generator.setFrequency channel hertz
  applySetting channel .amplitude "amplitude" " V" (·.text) arguments.amplitude
    fun channel volts => generator.setAmplitude channel volts
  applySetting channel .offset "offset" " V" (·.text) arguments.offset
    fun channel volts => generator.setOffset channel volts
  applySetting channel .phase "phase" " degrees" (·.text) arguments.phase
    fun channel degrees => generator.setPhase channel degrees
  applySetting channel .dutyCycle "duty cycle" "%" (·.text) arguments.dutyCycle
    fun channel percent => generator.setDutyCycle channel percent
  forSetting arguments.output fun given => do
    let state := if isOn given then "on" else "off"
    Program.info s!"Turning output {state}"
    generator.setOutput (isOn given)

/-- The limits as they were given. -/
def limits (arguments : Arguments) : AcquisitionLimits :=
  ⟨arguments.limitSamples.map (·.map .integer), arguments.limitMsec.map (·.map .integer)⟩

/-- Everything before the counter is turned on. Gives the sampler to start. -/
def prepare (generator : Generator) (configuration : Configuration) : Program Sampler := do
  let arguments := configuration.arguments
  applySettings generator arguments
  let channel ← Program.ofExcept (arguments.channel.demand .channel)
  let status ← generator.readStatus channel
  Program.info s!"Channel {channel} status: {status.text}"
  Recording.settings configuration.statusPath channel (Recording.statusRow status)
  forSetting arguments.gateTime fun given => do
    generator.setGateTime (← Program.ofExcept (given.demand .gateTime))
  return .new generator (limits arguments)

/-- Polls until the acquisition is complete, the first time at once. -/
def pollOnSchedule (turns : Nat) (configuration : Configuration) (sampler : Sampler) :
    Program (Sampler × Except Fault Unit) := do
  let beginning := do
    let interval ← Program.ofExcept (configuration.arguments.pollInterval.demand .pollInterval)
    return (interval, ← Program.now)
  match ← beginning.attempt with
  | .error fault => return (sampler, .error fault)
  | .ok (interval, due) =>
    Schedule.pollUntilComplete interval (Recording.sample configuration.samplePath) turns due sampler

/-- The acquisition proper, from the settings to the last poll. Gives the sampler, if it came to
that, and how it ended. -/
def acquire (turns : Nat) (generator : Generator) (configuration : Configuration) :
    Program (Option Sampler × Except Fault Unit) := do
  match ← (prepare generator configuration).attempt with
  | .error fault => return (none, .error fault)
  | .ok sampler =>
    let (sampler, started) ← sampler.start
    match started with
    | .error fault => return (some sampler, .error fault)
    | .ok () =>
      let (sampler, outcome) ← pollOnSchedule turns configuration sampler
      return (some sampler, outcome)

/-- Says how an acquisition ended. -/
def announce : Except Fault Unit → Program Unit
  | .ok () => Program.info "Acquisition ended successfully!"
  | .error fault =>
    if fault.isOf .interrupt then
      Program.warning "Keyboard interrupt! Shutting down... (please wait)"
    else if fault.isOf .ordinary then
      Program.warning s!"Acquisition ended with error! {fault.message} Shutting down... (please wait)"
    else .result ()

/-- Turns the counter off, if a sampler was made, and closes the port in any case. -/
def shutDown (generator : Generator) (sampler : Option Sampler) : Program Unit := do
  let stopped ← match sampler with
    | none => pure (.ok ())
    | some sampler => do
      Program.info "Stopping frequency counter..."
      let (_, outcome) ← sampler.stop
      pure outcome
  generator.close
  Program.info "Serial port closed."
  Program.ofExcept stopped

/-- Runs an acquisition as the command line asks for it, with so many turns for the polling. -/
def run (turns : Nat) (commandLine : List String) : Program Unit := do
  let start ← Program.now
  match Configuration.ofCommandLine commandLine start with
  | .error fault => Program.fail fault
  | .ok configuration =>
    let arguments := configuration.arguments
    if arguments.verbose then Program.showDebug
    Program.info s!"Logging counter samples to {configuration.samplePath}"
    let generator ← openPersistently arguments.port arguments.baudRate
    let (sampler, outcome) ← acquire turns generator configuration
    announce outcome
    shutDown generator sampler
    Program.ofExcept outcome

end SignalGenerator.Acquisition
