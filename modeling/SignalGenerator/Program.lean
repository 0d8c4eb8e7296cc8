import SignalGenerator.Calendar.Instant
import SignalGenerator.CommandLine.Given
import SignalGenerator.Counter.Function

/-!
Programs that talk to the outside. A program is a tree: it ends, or it asks something of its
surroundings and goes on with the answer. Whatever the surroundings answer is an argument of the
program, so a statement about all answers is a statement about every port, clock and file.
-/

namespace SignalGenerator

/-- An opened serial port: which opening it was, and the name it was opened by, as messages show
it. -/
structure Port where
  index : Nat
  name : String
deriving DecidableEq

/-- How a serial port is to be opened. Timeouts are in seconds. -/
structure LineSettings where
  baudRate : Given Int
  dataBits : Nat
  parity : String
  stopBits : Nat
  readTimeout : Number
  writeTimeout : Number
deriving DecidableEq

inductive LogLevel
  | debug
  | info
  | warning
deriving DecidableEq

/-- What a program can ask for. -/
inductive Request
  | openPort (name : Given String) (settings : LineSettings)
  | write (port : Port) (timeout : Number) (line : List UInt8)
  /-- One line with its terminator, or what has arrived of it before the timeout. -/
  | readLine (port : Port) (timeout : Number)
  | closePort (port : Port)
  | now
  /-- The seconds on a clock that never goes back. -/
  | stopwatch
  | pause (microseconds : Nat)
  /-- A pause of random length, at most so many seconds. -/
  | pauseAtMost (longest : Number)
  /-- Opens a file for appending, and tells whether it is empty. -/
  | startAppending (path : String)
  | append (path text : String)
  /-- Hands a sample over to whoever listens. -/
  | deliver (sample : Sample)
  | log (level : LogLevel) (message : String)
  /-- Debug messages are shown from now on. -/
  | showDebug
deriving DecidableEq

/-- What comes back from a request. -/
def Request.Answer : Request → Type
  | .openPort .. => Except Fault Port
  | .write .. => Except Fault Int
  | .readLine .. => Except Fault (List UInt8)
  | .closePort _ => Unit
  | .now => Except Fault Instant
  | .stopwatch => Binary64
  | .pause _ => Except Fault Unit
  | .pauseAtMost _ => Except Fault Unit
  | .startAppending _ => Except Fault Bool
  | .append .. => Except Fault Unit
  | .deliver _ => Except Fault Unit
  | .log .. => Unit
  | .showDebug => Unit

/-- A program with results of type `α`. It ends with a result or a fault. It is unfinished where it
would go on, but only so many turns of a loop were asked for. -/
inductive Program (α : Type) : Type
  | result (value : α)
  | fail (fault : Fault)
  | unfinished
  | ask (request : Request) (next : request.Answer → Program α)

namespace Program

variable {α β : Type}

def bind : Program α → (α → Program β) → Program β
  | .result value, next => next value
  | .fail fault, _ => .fail fault
  | .unfinished, _ => .unfinished
  | .ask request answered, next => .ask request fun answer => (answered answer).bind next

instance : Monad Program where
  pure := .result
  bind := .bind

/-- Runs a program and takes its fault as a result. -/
def attempt : Program α → Program (Except Fault α)
  | .result value => .result (.ok value)
  | .fail fault => .result (.error fault)
  | .unfinished => .unfinished
  | .ask request answered => .ask request fun answer => (answered answer).attempt

/-- Ends with what a computation without requests has given. -/
def ofExcept : Except Fault α → Program α
  | .ok value => .result value
  | .error fault => .fail fault

def ofArithmetic (value : Except ArithmeticFault α) : Program α :=
  ofExcept (value.mapError .arithmetic)

/-- One request, with a fault in its answer passed on. -/
def perform (request : Request) (next : request.Answer → Except Fault α) : Program α :=
  .ask request fun answer => ofExcept (next answer)

def openPort (name : Given String) (settings : LineSettings) : Program Port :=
  perform (.openPort name settings) id

def write (port : Port) (timeout : Number) (line : List UInt8) : Program Int :=
  perform (.write port timeout line) id

def readLine (port : Port) (timeout : Number) : Program (List UInt8) :=
  perform (.readLine port timeout) id

def closePort (port : Port) : Program Unit := .ask (.closePort port) .result

/-- The time of the calendar. It ends with the calendar. -/
def now : Program Instant := perform .now id

def stopwatch : Program Binary64 := .ask .stopwatch .result

def pause (microseconds : Nat) : Program Unit := perform (.pause microseconds) id

def pauseAtMost (longest : Number) : Program Unit := perform (.pauseAtMost longest) id

def startAppending (path : String) : Program Bool := perform (.startAppending path) id

def append (path text : String) : Program Unit := perform (.append path text) id

def deliver (sample : Sample) : Program Unit := perform (.deliver sample) id

def log (level : LogLevel) (message : String) : Program Unit := .ask (.log level message) .result

def debug (message : String) : Program Unit := log .debug message

def info (message : String) : Program Unit := log .info message

def warning (message : String) : Program Unit := log .warning message

def showDebug : Program Unit := .ask .showDebug .result

@[simp] theorem pure_eq (value : α) : (pure value : Program α) = .result value := rfl

@[simp] theorem bind_eq (program : Program α) (next : α → Program β) :
    program >>= next = program.bind next := rfl

theorem bind_result (program : Program α) : program.bind .result = program := by
  induction program with
  | result => rfl
  | fail => rfl
  | unfinished => rfl
  | ask request answered ih => simp only [bind, ih]

theorem bind_assoc {γ : Type} (program : Program α) (next : α → Program β)
    (last : β → Program γ) :
    (program.bind next).bind last = program.bind fun value => (next value).bind last := by
  induction program with
  | result => rfl
  | fail => rfl
  | unfinished => rfl
  | ask request answered ih => simp only [bind, ih]

instance : LawfulMonad Program :=
  LawfulMonad.mk' _ bind_result (fun _ _ => rfl) bind_assoc

end Program

end SignalGenerator
