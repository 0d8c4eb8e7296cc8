import SignalGenerator.Fault

/-!
What a parameter is given. Two dashes are dropped wherever they stand on a command line, also where
they are the whole value of a parameter; nothing is left of such a value.
-/

namespace SignalGenerator

/-- A value, or nothing in its place. -/
inductive Given (α : Type)
  | value (value : α)
  | blank
deriving DecidableEq

namespace Given

variable {α β : Type}

def map (f : α → β) : Given α → Given β
  | .value given => .value (f given)
  | .blank => .blank

/-- What was given, as a message shows it. -/
def text (shown : α → String) : Given α → String
  | .value given => shown given
  | .blank => "[]"

/-- The value that was given for a parameter, where one is needed. -/
def demand (parameter : Parameter) : Given α → Except Fault α
  | .value given => .ok given
  | .blank => .error (.blank parameter)

end Given

end SignalGenerator
