import SignalGenerator.Acquisition.Sampler
import SignalGenerator.Calendar.Interval

/-!
Polling on a schedule. The first poll is due at once and each further one an interval after the one
before was due, however late that was made.
-/

namespace SignalGenerator.Schedule

/-- How long to wait before the clock is read again: ten milliseconds. -/
def waitMicroseconds : Nat := 10000

/-- When the poll after one that was due is due itself. -/
def following (due : Instant) (interval : Number) : Except Fault Instant := do
  due.plus (← Interval.ofSeconds interval)

/-- Reads the clock. Waits a little if the poll is not due yet, and else tells when the one after it
is due. -/
def waitOrAdvance (interval : Number) (due : Instant) : Program (Option Instant) := do
  let time ← Program.now
  if time.microseconds < due.microseconds then
    Program.pause waitMicroseconds
    return none
  else
    let next ← Program.ofExcept (following due interval)
    return some next

/-- Polls until the acquisition is complete. Each turn reads the clock and then waits a little or
polls. -/
def pollUntilComplete (interval : Number) (sink : Sample → Program Unit) (turns : Nat)
    (due : Instant) (sampler : Sampler) : Program (Sampler × Except Fault Unit) :=
  if sampler.completed then .result (sampler, .ok ()) else
  match turns with
  | 0 => .unfinished
  | turns + 1 => do
    match ← (waitOrAdvance interval due).attempt with
    | .error fault => return (sampler, .error fault)
    | .ok none => pollUntilComplete interval sink turns due sampler
    | .ok (some next) =>
      let (polled, outcome) ← sampler.poll sink
      match outcome with
      | .error fault => return (polled, .error fault)
      | .ok _ => pollUntilComplete interval sink turns next polled

end SignalGenerator.Schedule
