import SignalGenerator.Acquisition.Retry

/-!
A call with prepared outcomes, to watch how it is repeated. Neither the call nor a pause takes any
time.
-/

namespace SignalGenerator

/-- The outcomes still to come, how often the call was made, and the lengths of the pauses in
between, in seconds. -/
structure PreparedCall (α : Type) where
  outcomes : List (Except Fault α)
  calls : Nat
  pauses : List Number

/-- How long to pause: so many seconds, or a random part of them. -/
structure Pausing where
  seconds : Number
  random : Bool

namespace PreparedCall

variable {α : Type}

/-- Something done with a prepared call. -/
abbrev Action (α β : Type) := ExceptT Fault (StateM (PreparedCall α)) β

/-- A call that was not made yet. -/
def of (outcomes : List (Except Fault α)) : PreparedCall α := ⟨outcomes, 0, []⟩

/-- Makes the call. When no outcome is left it gives `last`. -/
def call (last : α) : Action α (Except Fault α) := do
  let prepared ← get
  set { prepared with outcomes := prepared.outcomes.tail, calls := prepared.calls + 1 }
  return prepared.outcomes.head?.getD (.ok last)

/-- The length of a pause. A random part is taken of a binary64 number. -/
def length (policy : RetryPolicy) (pausing : Pausing) : Except ArithmeticFault Number := do
  if pausing.random then
    let _ ← pausing.seconds.toReal
  policy.pauseLength pausing.seconds

def pause (policy : RetryPolicy) (pausing : Pausing) : Action α Unit := do
  match length policy pausing with
  | .error fault => throw (.arithmetic fault)
  | .ok seconds =>
    modify fun prepared => { prepared with pauses := prepared.pauses ++ [seconds] }

/-- Makes the call under a policy. Once all outcomes are used up it is never repeated. -/
def repeated (policy : RetryPolicy) (pausing : Pausing) (outcomes : List (Except Fault α))
    (last : α) : Except Fault (Option α) × PreparedCall α :=
  let calls : Action α (Except Fault α) :=
    policy.repeating (call last) (pause policy pausing) (policy.furtherCalls outcomes.length)
  let (ending, prepared) := calls.run.run (of outcomes)
  (ending.bind policy.conclude, prepared)

end PreparedCall

end SignalGenerator
