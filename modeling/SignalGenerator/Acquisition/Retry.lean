import SignalGenerator.Fault

/-!
Repeating a call that may fail for a moment. A call is repeated after a fault of certain kinds, a
number of times, with a pause in between. No exchange is repeated by itself, so this is how a caller
asks for it.
-/

namespace SignalGenerator

structure RetryPolicy where
  /-- After which kinds of fault a call is repeated. -/
  retried : List Fault.Kind
  /-- How often a call is made at most, or no such limit. -/
  limit : Option Nat
  /-- The seconds after which no call is repeated any more, or no such limit. -/
  timeLimit : Option Number
  /-- Whether giving up ends with the last fault. Otherwise it ends with nothing. -/
  failing : Bool

namespace RetryPolicy

/-- Whatever can go wrong in a single exchange, five times. -/
def exchanges : RetryPolicy := ⟨[.transport, .protocol], some 5, none, true⟩

def retries (policy : RetryPolicy) (fault : Fault) : Bool := policy.retried.any fault.isOf

/-- The limit that a number sets. Calls are counted from one, and a number that the count never comes
to sets no limit. -/
def limitOf : Number → Option Nat
  | .integer n => if 0 < n then some n.toNat else none
  | .real x =>
    if x.isFinite && x.fraction.place.isSame (.units 0) && decide (0 < x.truncated) then
      some x.truncated.toNat
    else none

/-- How many calls may follow the first one, where no more than `enough` are ever needed and no time
passes. -/
def furtherCalls (policy : RetryPolicy) (enough : Nat) : Nat :=
  if policy.timeLimit.any (·.isAtMost 0) then 0
  else
    match policy.limit with
    | some limit => limit - 1
    | none => enough

/-- The seconds of a pause of the given length where no time has passed: it does not go on past the
time limit. -/
def pauseLength (policy : RetryPolicy) (seconds : Number) : Except ArithmeticFault Number :=
  match policy.timeLimit with
  | none => .ok seconds
  | some limit => return seconds.least (← limit.sub (.real Binary64.zero))

/-- What comes of the last outcome. -/
def conclude {α : Type} (policy : RetryPolicy) : Except Fault α → Except Fault (Option α)
  | .ok value => .ok (some value)
  | .error fault => if policy.retries fault && !policy.failing then .ok none else .error fault

/-- Makes a call, and again up to so many times while it ends with a fault to repeat it for, with a
pause before each further call. -/
def repeating {m : Type → Type} [Monad m] {α : Type} (policy : RetryPolicy)
    (call : m (Except Fault α)) (pause : m Unit) : (further : Nat) → m (Except Fault α)
  | 0 => call
  | further + 1 => do
    match ← call with
    | .ok value => return .ok value
    | .error fault =>
      if policy.retries fault then
        pause
        repeating policy call pause further
      else return .error fault

end RetryPolicy

end SignalGenerator
