import SignalGenerator.Counter.Function
import SignalGenerator.Panel.Waveform

/-!
The commands of the generator. A command is one line of text: a colon, `r` to read or `s` to set, the
number of a channel or of a group of functions, a letter for what is meant, and for a setting its
value in decimal.
-/

namespace SignalGenerator

/-- What is kept for each channel. -/
inductive Register
  | waveform
  | attenuation
  | frequency
  | amplitude
  | dutyCycle
  | offset
  | phase
deriving DecidableEq

def Register.letter : Register → String
  | .waveform => "w"
  | .attenuation => "y"
  | .frequency => "f"
  | .amplitude => "a"
  | .dutyCycle => "d"
  | .offset => "o"
  | .phase => "p"

inductive Command
  | readModel
  | read (channel : Int) (register : Register)
  | set (channel : Int) (register : Register) (value : Int)
  | readOutput
  | setOutput (enabled : Bool)
  | selectFunction (function : CounterFunction)
  | setGateTime (gateTime : GateTime)
  | enableCounter (enabled : Bool)
  | readCounter
deriving DecidableEq

namespace Command

def flag (enabled : Bool) : String := if enabled then "1" else "0"

/-- The line for a command, without its terminator. -/
def text : Command → String
  | readModel => ":r0c"
  | read channel register => s!":r{channel}{register.letter}"
  | set channel register value => s!":s{channel}{register.letter}{value}"
  | readOutput => ":r1b"
  | setOutput enabled => s!":s1b{flag enabled}"
  | selectFunction function => s!":s{function.id}m"
  | setGateTime gateTime => s!":s1g{gateTime.id}"
  | enableCounter enabled => s!":s6b{flag enabled}"
  | readCounter => ":r0e"

end Command

end SignalGenerator
