import SignalGenerator.CommandLine.Parameter
import SignalGenerator.Panel.Waveform
import SignalGenerator.Text.Quoted

/-!
Everything that can go wrong, by cause. A fault has one message, and it belongs to a kind, by which
callers decide what to do about it.
-/

namespace SignalGenerator

/-- The kinds of faults. Some kinds are part of a wider one. -/
inductive Fault.Kind
  /-- Every fault. -/
  | any
  | ordinary
  | transport
  | protocol
  | unexpectedReply
  | shortReply
  | value
  | validation
  | unsupportedDevice
  | encoding
  | overflow
  | zeroDivision
  | mismatch
  | state
  | system
  | serial
  | serialTimeout
  | missingFile
  | directory
  | notDirectory
  | interrupt
  | exit
  | other (name : String)
deriving DecidableEq

/-- A kind with all wider kinds that it is part of. An interrupt and an exit are no ordinary
faults. -/
def Fault.Kind.family : Fault.Kind → List Fault.Kind
  | .unexpectedReply => [.unexpectedReply, .protocol, .ordinary, .any]
  | .shortReply => [.shortReply, .protocol, .ordinary, .any]
  | .validation => [.validation, .value, .ordinary, .any]
  | .unsupportedDevice => [.unsupportedDevice, .value, .ordinary, .any]
  | .encoding => [.encoding, .value, .ordinary, .any]
  | .serialTimeout => [.serialTimeout, .serial, .system, .ordinary, .any]
  | .serial => [.serial, .system, .ordinary, .any]
  | .missingFile => [.missingFile, .system, .ordinary, .any]
  | .directory => [.directory, .system, .ordinary, .any]
  | .notDirectory => [.notDirectory, .system, .ordinary, .any]
  | .ordinary => [.ordinary, .any]
  | .interrupt => [.interrupt, .any]
  | .exit => [.exit, .any]
  | .any => [.any]
  | kind => [kind, .ordinary, .any]

inductive Fault
  /-- The port failed while a command was written. -/
  | sendFailed (command cause : String)
  | shortWrite (command : String) (written : Int) (length : Nat)
  /-- The port failed while a reply was read. -/
  | readFailed (cause : String)
  | noReply (milliseconds : String)
  | notAscii (line : List UInt8)
  | notAcknowledged (command reply : String)
  | noValue (command reply : String)
  | replyTooLong (command : String) (length : Nat)
  | notEchoed (command reply tag : String)
  | notAnInteger (command reply value : String)
  | unknownAttenuation (id : Int)
  /-- A channel that the generator does not have. -/
  | channelOutOfRange (channel : Int)
  /-- A channel that the capability tables do not have. -/
  | noSuchChannel (channel : Int)
  | unknownWaveform
  | noSuchWaveform (name : String)
  | outOfRange (setting : String) (errors : List String)
  | notFinite (setting : String)
  | offsetWithoutAmplitude (offset : Number)
  | arithmetic (fault : ArithmeticFault)
  /-- A command with characters that cannot be sent. -/
  | unencodable (command : String)
  | modelTooShort (code : String)
  | modelForeign (code : String)
  | modelWithoutFrequency (code : String)
  | notANumeral (text : String)
  | samplerNotRunning
  | tooManyDays
  | daysOutOfRange (days : Int)
  | dateOutOfRange
  /-- A parameter without a value where its value is needed. -/
  | blank (parameter : Parameter)
  /-- The command line asked for help, with code 0, or was refused. -/
  | exited (code : Nat) (message : String)
  /-- A fault of the surroundings: of the port, of a file, or an interrupt. -/
  | external (kind : Fault.Kind) (message : String)
deriving DecidableEq

namespace Fault

/-- The first run of characters that are not ASCII: where it starts, and the run. -/
def firstWideRun (content : List Char) : Nat × List Char :=
  let isWide (c : Char) : Bool := decide (127 < c.toNat)
  let start := content.takeWhile (!isWide ·)
  (start.length, (content.drop start.length).takeWhile isWide)

/-- What cannot be encoded in a command, by position, and as a character if it is one only. -/
def encodingText (command : String) : String :=
  let (start, run) := firstWideRun command.toList
  let what :=
    match run with
    | [c] =>
      let escape := String.ofList (Quoted.escapeCode c.toNat)
      s!"character '{escape}' in position {start}"
    | _ => s!"characters in position {start}-{start + run.length - 1}"
  s!"'ascii' codec can't encode {what}: ordinal not in range(128)"

def arithmeticText : ArithmeticFault → String
  | .integerTooLarge => "int too large to convert to float"
  | .quotientTooLarge => "integer division result too large for a float"
  | .integerOfNan => "cannot convert float NaN to integer"
  | .integerOfInfinity => "cannot convert float infinity to integer"
  | .divisionByZero => "division by zero"

/-- The names of all waveforms, as a list in a message. -/
def waveformNames : String :=
  "[" ++ ", ".intercalate (Waveform.all.map fun w => Quoted.text w.name) ++ "]"

/-- What is said about a parameter without a value, by what is done with it first. -/
def blankText : Parameter → String
  | .port => "\"port\" must be None or a string, not <class 'list'>"
  | .baudRate => "Not a valid baudrate: []"
  | .channel => "Channel must be one of (1, 2), not []"
  | .waveform =>
    "int() argument must be a string, a bytes-like object or a real number, not 'list'"
  | .gateTime => "unhashable type: 'list'"
  | .limitSamples => "'>=' not supported between instances of 'int' and 'list'"
  | .limitMsec => "'>=' not supported between instances of 'float' and 'list'"
  | .pollInterval => "'<=' not supported between instances of 'list' and 'int'"
  | _ => "must be real number, not list"

def message : Fault → String
  | sendFailed command cause => s!"Failed to send \"{command}\": {cause}"
  | shortWrite command written length =>
    s!"Short write sending \"{command}\": {written} of {length} bytes"
  | readFailed cause => s!"Failed to read reply: {cause}"
  | noReply milliseconds => s!"No reply within {milliseconds} ms"
  | notAscii line => s!"Reply {Quoted.bytes line} is not ASCII"
  | notAcknowledged command reply =>
    s!"Expected acknowledgement to \"{command}\" but received \"{reply}\""
  | noValue command reply => s!"Reply \"{reply}\" to \"{command}\" carries no value"
  | replyTooLong command length =>
    s!"Reply to \"{command}\" is {length} characters long, more than the maximum of 32"
  | notEchoed command reply tag => s!"Reply \"{reply}\" to \"{command}\" does not echo \"{tag}\""
  | notAnInteger command reply value =>
    s!"Could not parse \"{value}\" from reply \"{reply}\" to \"{command}\" as an integer"
  | unknownAttenuation id => s!"Unknown attenuation id {id}"
  | channelOutOfRange channel => s!"Channel must be one of (1, 2), not {channel}"
  | noSuchChannel channel => s!"Channel {channel} does not exist. Valid channels: {channels}"
  | unknownWaveform => "Can't set a channel to the unknown waveform"
  | noSuchWaveform name => s!"Unknown waveform '{name}'. Valid: {waveformNames}"
  | outOfRange setting errors =>
    let list := ", ".intercalate errors
    s!"Invalid {setting}. Errors: {list}"
  | notFinite setting => s!"Invalid {setting}: not a finite number"
  | offsetWithoutAmplitude offset =>
    s!"Invalid offset {offset.text} V: can't offset a zero-amplitude output"
  | arithmetic fault => arithmeticText fault
  | unencodable command => encodingText command
  | modelTooShort code => s!"Model code \"{code}\" is too short"
  | modelForeign code => s!"Model code \"{code}\" does not start with \"52\""
  | modelWithoutFrequency code => s!"Model code \"{code}\" has no maximum frequency digits"
  | notANumeral text => s!"invalid literal for int() with base 10: {Quoted.text text}"
  | samplerNotRunning => "poll() called on a sampler that isn't running"
  | tooManyDays => "Python int too large to convert to C int"
  | daysOutOfRange days => s!"days={days}; must have magnitude <= 999999999"
  | dateOutOfRange => "date value out of range"
  | blank parameter => blankText parameter
  | exited _ message => message
  | external _ message => message

def kind : Fault → Kind
  | sendFailed .. | shortWrite .. | readFailed .. | noReply .. => .transport
  | notAscii .. | notAcknowledged .. | replyTooLong .. | notEchoed .. | notAnInteger ..
  | unknownAttenuation .. => .unexpectedReply
  | noValue .. => .shortReply
  | channelOutOfRange .. | unknownWaveform | outOfRange .. | notFinite ..
  | offsetWithoutAmplitude .. => .validation
  | noSuchChannel .. | noSuchWaveform .. | notANumeral .. => .value
  | modelTooShort .. | modelForeign .. | modelWithoutFrequency .. => .unsupportedDevice
  | arithmetic .integerOfNan => .value
  | arithmetic .divisionByZero => .zeroDivision
  | arithmetic _ => .overflow
  | unencodable .. => .encoding
  | samplerNotRunning => .state
  | tooManyDays | daysOutOfRange .. | dateOutOfRange => .overflow
  | blank .channel => .validation
  | blank .port | blank .baudRate => .value
  | blank _ => .mismatch
  | exited .. => .exit
  | external kind _ => kind

/-- Whether a fault is of this kind, or of one that is part of it. -/
def isOf (fault : Fault) (kind : Kind) : Bool := fault.kind.family.contains kind

end Fault

end SignalGenerator
