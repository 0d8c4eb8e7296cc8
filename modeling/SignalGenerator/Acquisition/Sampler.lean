import SignalGenerator.Instrument.Generator

/-!
Polling the counter. One poll measures all functions of the counter, hands the samples over, and
counts as a tick; an acquisition is complete after a number of ticks or after a time. An operation
that fails still gives the state that it leaves.
-/

namespace SignalGenerator

/-- When an acquisition is complete: after so many ticks or so many milliseconds. A limit that is not
there is never reached. -/
structure AcquisitionLimits where
  ticks : Option (Given Number)
  milliseconds : Option (Given Number)
deriving DecidableEq

namespace AcquisitionLimits

def noLimits : AcquisitionLimits := ⟨none, none⟩

def limitText : Option (Given Number) → String
  | some limit => limit.text (·.text)
  | none => "None"

/-- Whether a value has reached the limit that a parameter sets. -/
def reached (parameter : Parameter) (limit : Option (Given Number)) (value : Number) :
    Except Fault Bool :=
  match limit with
  | some given => return (← given.demand parameter).isAtMost value
  | none => .ok false

def text (limits : AcquisitionLimits) : String :=
  s!"AcquisitionLimits(limit_samples={limitText limits.ticks}, limit_msec={limitText limits.milliseconds})"

end AcquisitionLimits

structure Sampler where
  generator : Generator
  limits : AcquisitionLimits
  tickCount : Nat
  running : Bool
  completed : Bool
  /-- What the stopwatch showed when the acquisition was started. -/
  startTime : Option Binary64
deriving DecidableEq

namespace Sampler

def new (generator : Generator) (limits : AcquisitionLimits) : Sampler :=
  ⟨generator, limits, 0, false, false, none⟩

/-- Turns the counter on, with frequency as the function to begin with. The state only changes when
both are acknowledged. -/
def start (sampler : Sampler) : Program (Sampler × Except Fault Unit) := do
  let prepare := do
    sampler.generator.enableCounter true
    sampler.generator.selectFunction .frequency
  match ← prepare.attempt with
  | .error fault => return (sampler, .error fault)
  | .ok () =>
    let time ← Program.stopwatch
    Program.info s!"Counter acquisition started with limits {sampler.limits.text}"
    return ({ sampler with tickCount := 0, completed := false, running := true,
                           startTime := some time }, .ok ())

/-- Turns the counter off. The sampler is stopped even if the counter does not answer. -/
def stop (sampler : Sampler) : Program (Sampler × Except Fault Unit) := do
  let stopped := { sampler with running := false }
  match ← (sampler.generator.enableCounter false).attempt with
  | .error fault => return (stopped, .error fault)
  | .ok () =>
    Program.info s!"Counter acquisition stopped after {sampler.tickCount} ticks"
    return (stopped, .ok ())

/-- Measures functions one after the other. -/
def measureEach (generator : Generator) : List CounterFunction → Program (List Sample)
  | [] => .result []
  | function :: rest => do
    let value ← generator.measure function
    return ⟨function.quantity, value, function.unit⟩ :: (← measureEach generator rest)

/-- Hands samples over one after the other. -/
def deliverEach (sink : Sample → Program Unit) : List Sample → Program Unit
  | [] => .result ()
  | sample :: rest => do
    sink sample
    deliverEach sink rest

/-- The milliseconds from one reading of the stopwatch to another. -/
def elapsedMilliseconds (start time : Binary64) : Binary64 :=
  (time.sub start).mul (Binary64.ofInt 1000)

/-- Whether a limit is reached. The stopwatch is read unless the number of ticks decides. -/
def limitReached (sampler : Sampler) : Program Bool := do
  let limits := sampler.limits
  if ← Program.ofExcept
      (AcquisitionLimits.reached .limitSamples limits.ticks (.integer sampler.tickCount)) then
    return true
  let time ← Program.stopwatch
  let elapsed := elapsedMilliseconds (sampler.startTime.getD Binary64.zero) time
  Program.ofExcept (AcquisitionLimits.reached .limitMsec limits.milliseconds elapsed)

/-- One poll. Nothing is handed over before everything is measured, and the tick only counts when
everything was handed over. The limits are looked at after that. -/
def poll (sampler : Sampler) (sink : Sample → Program Unit) :
    Program (Sampler × Except Fault (List Sample)) := do
  if !sampler.running then return (sampler, .error .samplerNotRunning)
  let gather := do
    let samples ← measureEach sampler.generator CounterFunction.pollingOrder
    deliverEach sink samples
    return samples
  match ← gather.attempt with
  | .error fault => return (sampler, .error fault)
  | .ok samples =>
    let counted := { sampler with tickCount := sampler.tickCount + 1 }
    match ← counted.limitReached.attempt with
    | .error fault => return (counted, .error fault)
    | .ok false => return (counted, .ok samples)
    | .ok true =>
      Program.info s!"Acquisition limit reached after {counted.tickCount} ticks"
      return ({ counted with completed := true }, .ok samples)

end Sampler

end SignalGenerator
