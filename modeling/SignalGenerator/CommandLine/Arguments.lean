import SignalGenerator.CommandLine.Given
import SignalGenerator.CommandLine.Token
import SignalGenerator.Counter.Function
import SignalGenerator.Text.Numeral

/-!
The values of the parameters. Arguments are taken from left to right; a later value of a parameter
replaces an earlier one, and the first problem ends the reading. Arguments that belong to no
parameter are complained about at the end.
-/

namespace SignalGenerator

/-- What a command line asks for. A setting that is not given is left as it is. -/
structure Arguments where
  port : Given String
  baudRate : Given Int
  channel : Given Int
  waveform : Option (Given Waveform)
  frequency : Option (Given Binary64)
  amplitude : Option (Given Binary64)
  offset : Option (Given Binary64)
  phase : Option (Given Binary64)
  dutyCycle : Option (Given Binary64)
  output : Option (Given Bool)
  gateTime : Option (Given GateTime)
  limitSamples : Option (Given Int)
  limitMsec : Option (Given Int)
  /-- The seconds from one poll to the next. -/
  pollInterval : Given Number
  verbose : Bool
deriving DecidableEq

namespace Arguments

/-- What is asked for by no arguments at all. -/
def default : Arguments :=
  { port := .value "/dev/ttyUSB0", baudRate := .value 57600, channel := .value 1, waveform := none,
    frequency := none, amplitude := none, offset := none, phase := none, dutyCycle := none,
    output := none, gateTime := none, limitSamples := none, limitMsec := none,
    pollInterval := .value 1, verbose := false }

/-- A value of the wrong kind. -/
def invalid (kind value : String) : String :=
  let shown := Quoted.text value
  s!"invalid {kind} value: {shown}"

def readInteger (value : String) : Except String Int :=
  match Numeral.integer? value with
  | some n => .ok n
  | none => .error (invalid "int" value)

def readReal (value : String) : Except String Binary64 :=
  match Numeral.real? value with
  | some x => .ok x
  | none => .error (invalid "float" value)

def readInterval (value : String) : Except String Number := return .real (← readReal value)

def readChannel (value : String) : Except String Int := do
  let channel ← readInteger value
  if channels.contains channel then return channel
  throw s!"invalid choice: {channel} (choose from 1, 2)"

def readPositive (value : String) : Except String Int :=
  match Numeral.integer? value with
  | none => .error (invalid "_positive_int" value)
  | some n => if 0 < n then .ok n else .error s!"{value} is not a positive integer"

def readWaveform (value : String) : Except String Waveform :=
  match Waveform.ofName? value with
  | some waveform => .ok waveform
  | none => .error (Fault.noSuchWaveform value).message

def readSwitch (value : String) : Except String Bool :=
  let word := String.ofList (value.toList.map Char.toLower)
  if word = "on" then .ok true
  else if word = "off" then .ok false
  else .error s!"{value} is not 'on' or 'off'"

/-- The gate times as they are written, in seconds. -/
def gateTimes : List (String × GateTime) :=
  [("0.01", .tenMilliseconds), ("0.1", .hundredMilliseconds), ("1", .oneSecond),
    ("10", .tenSeconds)]

def readGateTime (value : String) : Except String GateTime :=
  match gateTimes.lookup value with
  | some gateTime => .ok gateTime
  | none =>
    let shown := Quoted.text value
    let choices := ", ".intercalate (gateTimes.map fun (written, _) => Quoted.text written)
    .error s!"invalid choice: {shown} (choose from {choices})"

/-- Reads what was typed for a parameter. -/
def given {α : Type} (read : String → Except String α) (typed : String) : Except String (Given α) :=
  if typed = "--" then .ok .blank else (read typed).map .value

/-- Sets a parameter to a value as it was typed. -/
def set (arguments : Arguments) (parameter : Parameter) (typed : String) :
    Except String Arguments :=
  match parameter with
  | .help | .verbose => .ok arguments
  | .port => return { arguments with port := ← given .ok typed }
  | .baudRate => return { arguments with baudRate := ← given readInteger typed }
  | .channel => return { arguments with channel := ← given readChannel typed }
  | .waveform => return { arguments with waveform := some (← given readWaveform typed) }
  | .frequency => return { arguments with frequency := some (← given readReal typed) }
  | .amplitude => return { arguments with amplitude := some (← given readReal typed) }
  | .offset => return { arguments with offset := some (← given readReal typed) }
  | .phase => return { arguments with phase := some (← given readReal typed) }
  | .dutyCycle => return { arguments with dutyCycle := some (← given readReal typed) }
  | .output => return { arguments with output := some (← given readSwitch typed) }
  | .gateTime => return { arguments with gateTime := some (← given readGateTime typed) }
  | .limitSamples => return { arguments with limitSamples := some (← given readPositive typed) }
  | .limitMsec => return { arguments with limitMsec := some (← given readPositive typed) }
  | .pollInterval => return { arguments with pollInterval := ← given readInterval typed }

/-- The exit for a problem with one parameter. -/
def problem (parameter : Parameter) (message : String) : Exit :=
  .refusal s!"argument {parameter.label}: {message}"

def setValue (arguments : Arguments) (parameter : Parameter) (value : String) :
    Except Exit Arguments :=
  (arguments.set parameter value).mapError (problem parameter)

/-- Throws a switch. To ask for help ends everything. -/
def throwSwitch (arguments : Arguments) : Parameter → Except Exit Arguments
  | .help => .error ⟨0, ""⟩
  | .verbose => .ok { arguments with verbose := true }
  | _ => .ok arguments

def throwSwitches (arguments : Arguments) (switches : List Parameter) : Except Exit Arguments :=
  switches.foldlM throwSwitch arguments

/-- How an argument that names parameters ends. -/
inductive Ending
  | complete
  /-- The value of this parameter is in the same argument. -/
  | value (parameter : Parameter) (value : String)
  /-- The value of this parameter is the next argument. -/
  | awaits (parameter : Parameter)

/-- A switch has no value. -/
def refuseValue (switch : Parameter) (value : List Char) : Except Exit (List Parameter × Ending) :=
  let shown := Quoted.text (String.ofList value)
  .error (problem switch s!"ignored explicit argument {shown}")

/-- Goes on after a short switch with the letters that follow it, up to one that takes a value. -/
def unfoldLetters (switch : Parameter) : List Char → Except Exit (List Parameter × Ending)
  | [] => refuseValue switch []
  | letter :: rest =>
    match Parameter.ofLetter? letter with
    | none => refuseValue switch (letter :: rest)
    | some next =>
      if next.takesValue then
        .ok ([switch], if rest.isEmpty then .awaits next else .value next (String.ofList rest))
      else if rest.isEmpty then .ok ([switch, next], .complete)
      else (unfoldLetters next rest).map fun (switches, ending) => (switch :: switches, ending)

/-- The switches that an argument throws, and how it ends. -/
def unfold (parameter : Parameter) (spelling : Spelling) (attached : Option (List Char)) :
    Except Exit (List Parameter × Ending) :=
  match parameter.takesValue, attached, spelling with
  | true, none, _ => .ok ([], .awaits parameter)
  | true, some value, _ => .ok ([], .value parameter (String.ofList value))
  | false, none, _ => .ok ([parameter], .complete)
  | false, some letters, .short => unfoldLetters parameter letters
  | false, some value, .long => refuseValue parameter value

/-- Takes the arguments from left to right. Gives the values and what is left over. -/
def take (arguments : Arguments) (extras : List String) :
    List Token → Except Exit (Arguments × List String)
  | [] => .ok (arguments, extras)
  | .operand text :: rest => take arguments (extras ++ [text]) rest
  | .separator :: rest => take arguments (extras ++ ["--"]) rest
  | .unknown text :: rest => take arguments (extras ++ [text]) rest
  | .named parameter spelling attached :: rest =>
    match unfold parameter spelling attached with
    | .error exit => .error exit
    | .ok (switches, .complete) => do take (← arguments.throwSwitches switches) extras rest
    | .ok (switches, .value parameter value) => do
      take (← (← arguments.throwSwitches switches).setValue parameter value) extras rest
    | .ok (switches, .awaits parameter) =>
      match rest with
      | .operand value :: rest => do
        take (← (← arguments.throwSwitches switches).setValue parameter value) extras rest
      | _ => .error (problem parameter "expected one argument")

/-- What a command line asks for, and what is left over of it. -/
def parse (commandLine : List String) : Except Exit (Arguments × List String) := do
  take default [] (← Token.ofArguments commandLine)

/-- Refuses a command line. -/
def refuse {α : Type} (exit : Exit) : Except Fault α := .error (.exited exit.code exit.message)

/-- What a command line asks for, if nothing is left over of it, and polls follow each other in
time. -/
def ofCommandLine (commandLine : List String) : Except Fault Arguments :=
  match parse commandLine with
  | .error exit => refuse exit
  | .ok (arguments, extras) => do
    if !extras.isEmpty then
      let list := " ".intercalate extras
      refuse (.refusal s!"unrecognized arguments: {list}")
    let interval ← arguments.pollInterval.demand .pollInterval
    if interval.isAtMost 0 then refuse (.refusal "--poll-interval must be positive")
    return arguments

end Arguments

end SignalGenerator
