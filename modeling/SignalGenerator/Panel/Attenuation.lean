/-!
The attenuation of an output. The generator switches it by itself, depending on the amplitude, so it
can only be read.
-/

namespace SignalGenerator

inductive Attenuation
  | minusTwenty
  | zero
deriving DecidableEq

namespace Attenuation

/-- The attenuation with this number on the line. -/
def ofId? (id : Int) : Option Attenuation :=
  if id = 0 then some .minusTwenty else if id = 1 then some .zero else none

def text : Attenuation → String
  | .minusTwenty => "-20 dB"
  | .zero => "0 dB"

end Attenuation

end SignalGenerator
