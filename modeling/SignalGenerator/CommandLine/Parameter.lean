/-!
The parameters of the command line and how each of them is spelled.
-/

namespace SignalGenerator

inductive Parameter
  | help
  | port
  | baudRate
  | channel
  | waveform
  | frequency
  | amplitude
  | offset
  | phase
  | dutyCycle
  | output
  | gateTime
  | limitSamples
  | limitMsec
  | pollInterval
  | verbose
deriving DecidableEq

namespace Parameter

def all : List Parameter :=
  [help, port, baudRate, channel, waveform, frequency, amplitude, offset, phase, dutyCycle, output,
    gateTime, limitSamples, limitMsec, pollInterval, verbose]

/-- The long spelling. -/
def long : Parameter → String
  | help => "--help"
  | port => "--port"
  | baudRate => "--baud-rate"
  | channel => "--channel"
  | waveform => "--waveform"
  | frequency => "--frequency"
  | amplitude => "--amplitude"
  | offset => "--offset"
  | phase => "--phase"
  | dutyCycle => "--duty-cycle"
  | output => "--output"
  | gateTime => "--gate-time"
  | limitSamples => "--limit-samples"
  | limitMsec => "--limit-msec"
  | pollInterval => "--poll-interval"
  | verbose => "--verbose"

/-- The letter of the short spelling, for the parameters that have one. -/
def letter? : Parameter → Option Char
  | help => some 'h'
  | port => some 'p'
  | channel => some 'c'
  | waveform => some 'w'
  | frequency => some 'f'
  | amplitude => some 'a'
  | verbose => some 'v'
  | _ => none

/-- Whether a parameter has a value. The others are switches. -/
def takesValue : Parameter → Bool
  | help | verbose => false
  | _ => true

/-- All spellings together, as messages name a parameter. -/
def label (parameter : Parameter) : String :=
  match parameter.letter? with
  | some letter => s!"-{letter}/{parameter.long}"
  | none => parameter.long

def ofLetter? (letter : Char) : Option Parameter :=
  all.find? fun parameter => decide (parameter.letter? = some letter)

/-- The parameter with exactly this spelling. -/
def ofSpelling? (spelling : List Char) : Option Parameter :=
  match spelling with
  | ['-', letter] => ofLetter? letter
  | _ => all.find? fun parameter => decide (parameter.long.toList = spelling)

/-- The parameters whose long spelling begins like this. -/
def beginningWith (beginning : List Char) : List Parameter :=
  all.filter fun parameter => beginning.isPrefixOf parameter.long.toList

end Parameter

end SignalGenerator
