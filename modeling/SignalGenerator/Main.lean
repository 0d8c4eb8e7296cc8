import SignalGenerator.Acquisition.Run
import Std.Time

/-!
The command line program. Requests are carried out on the devices and files of the computer; a serial
port is the device file of its name, with the line settings that the system has for it.
-/

namespace SignalGenerator.Console

/-- An open device and the byte that is being waited for. -/
structure Device where
  handle : IO.FS.Handle
  pending : IO.Ref (Option (Task (Except IO.Error ByteArray)))

structure World where
  devices : IO.Ref (Array (Option Device))
  debugShown : IO.Ref Bool

/-- A failure of the system as a fault of a kind. -/
def answerOf {α : Type} (kind : Fault.Kind) (action : IO α) : IO (Except Fault α) := do
  try
    return .ok (← action)
  catch failure =>
    return .error (.external kind (toString failure))

def currentTime : IO Instant := do
  let time ← Std.Time.PlainDateTime.now
  return .ofCivil ⟨(time.year : Int).toNat, time.month.val.toNat, time.day.val.toNat,
    time.hour.val.toNat, time.minute.val.toNat, time.second.val.toNat,
    time.nanosecond.val.toNat / 1000⟩

def openDevice (world : World) (name : String) : IO Port := do
  let handle ← IO.FS.Handle.mk name .readWrite
  let device : Device := ⟨handle, ← IO.mkRef none⟩
  let opened ← world.devices.get
  world.devices.set (opened.push (some device))
  return ⟨opened.size, name⟩

def device (world : World) (port : Port) : IO Device := do
  match (← world.devices.get)[port.index]? with
  | some (some device) => return device
  | _ => throw (IO.userError "Attempting to use a port that is not open")

/-- The byte that comes next, if it is there. -/
def nextByte? (device : Device) : IO (Option UInt8) := do
  let task ← match ← device.pending.get with
    | some task => pure task
    | none => do
      let task ← IO.asTask (device.handle.read 1)
      device.pending.set (some task)
      pure task
  if ← IO.hasFinished task then
    device.pending.set none
    let bytes ← IO.ofExcept task.get
    return bytes[0]?
  else return none

/-- Reads up to a line feed or up to a time on the monotonic clock. -/
partial def readUntil (device : Device) (deadline : Nat) (read : List UInt8) :
    IO (List UInt8) := do
  match ← nextByte? device with
  | some byte =>
    if byte = 10 then return (byte :: read).reverse
    else readUntil device deadline (byte :: read)
  | none =>
    if deadline ≤ (← IO.monoMsNow) then return read.reverse
    else
      IO.sleep 1
      readUntil device deadline read

/-- Whole milliseconds in a time given in seconds. -/
def milliseconds (seconds : Number) : Nat :=
  match seconds.mul 1000 with
  | .ok product => (product.roundAway.toOption.getD 0).toNat
  | .error _ => 0

def levelName : LogLevel → String
  | .debug => "DEBUG"
  | .info => "INFO"
  | .warning => "WARNING"

def writeLog (world : World) (level : LogLevel) (message : String) : IO Unit := do
  if level ≠ .debug || (← world.debugShown.get) then
    let time ← currentTime
    IO.eprintln s!"{time.text} [{levelName level}]--- {message}"

/-- Carries a request out. -/
def perform (world : World) : (request : Request) → IO request.Answer
  | .openPort name settings =>
    match name.demand .port, settings.baudRate.demand .baudRate with
    | .error fault, _ => return .error fault
    | _, .error fault => return .error fault
    | .ok name, .ok _ => answerOf .serial (openDevice world name)
  | .write port _ line => answerOf .serial do
    let device ← device world port
    device.handle.write ⟨line.toArray⟩
    device.handle.flush
    return line.length
  | .readLine port timeout => answerOf .serial do
    let device ← device world port
    readUntil device ((← IO.monoMsNow) + milliseconds timeout) []
  | .closePort port => world.devices.modify (·.setIfInBounds port.index none)
  | .now => return .ok (← currentTime)
  | .stopwatch => do
    return Binary64.ofQuotient false ((← IO.monoNanosNow) * unitsPerOne) 1000000000
  | .pause microseconds => answerOf .system (IO.sleep (microseconds / 1000).toUInt32)
  | .pauseAtMost longest => answerOf .system do
    IO.sleep (← IO.rand 0 (milliseconds longest)).toUInt32
  | .startAppending path => answerOf .system do
    let handle ← IO.FS.Handle.mk path .append
    handle.flush
    return (← IO.FS.readFile path).isEmpty
  | .append path text => answerOf .system do
    let handle ← IO.FS.Handle.mk path .append
    handle.putStr text
    handle.flush
  | .deliver _ => return .ok ()
  | .log level message => writeLog world level message
  | .showDebug => world.debugShown.set true

/-- Runs a program on the computer and gives the code to exit with. -/
def execute (world : World) : Program Unit → IO UInt32
  | .result _ => return 0
  | .unfinished => return 0
  | .fail (.exited code message) => do
    if code = 0 then IO.println "usage: mhs5200a [options]"
    else IO.eprintln s!"mhs5200a: error: {message}"
    return code.toUInt32
  | .fail fault => do
    IO.eprintln fault.message
    return 1
  | .ask request next => do
    execute world (next (← perform world request))

/-- More turns than anyone waits for. -/
def turns : Nat := Nat.pow 2 64

end SignalGenerator.Console

def main (arguments : List String) : IO UInt32 := do
  let world : SignalGenerator.Console.World := ⟨← IO.mkRef #[], ← IO.mkRef false⟩
  SignalGenerator.Console.execute world
    (SignalGenerator.Acquisition.run SignalGenerator.Console.turns arguments)
