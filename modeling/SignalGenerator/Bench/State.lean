import SignalGenerator.Bench.Directory
import SignalGenerator.Calendar.Interval
import SignalGenerator.Program

/-!
A bench on which programs run without a generator: serial ports with prepared answers, a clock that
only moves when something takes time, files, and a listener for samples. Everything that a program
does to it is recorded.
-/

namespace SignalGenerator

/-- What a port does when a line is written to it. -/
inductive WriteAnswer
  | complete
  | count (written : Int)
  | fault (fault : Fault)

/-- What a port does when a line is read from it. -/
inductive ReadAnswer
  | silence
  | line (bytes : List UInt8)
  | fault (fault : Fault)

/-- A port with what it will answer, in order. Without anything prepared it takes every line and
stays silent. -/
structure BenchPort where
  name : Given String
  settings : Option LineSettings
  replies : List ReadAnswer
  writes : List WriteAnswer
  /-- The lines written to the port, the last one first. -/
  written : List (List UInt8)
  reads : Nat
  writeTimeout : Option Number
  readTimeout : Option Number
  closed : Bool

/-- What happens when a port is opened. -/
inductive Opening
  | opens (replies : List ReadAnswer) (writes : List WriteAnswer)
  | refused (message : String)

structure Bench where
  /-- The ports of all openings, in order. -/
  ports : Array BenchPort
  /-- What the next openings do. When nothing is left there is no such port. -/
  openings : List Opening
  start : Instant
  /-- The microseconds that have passed since the start. -/
  elapsed : Int
  /-- The microseconds that a reading takes. -/
  readingTime : Int
  /-- What the stopwatch shows, if it does not go with the clock. -/
  stopwatch : Option Binary64
  debugShown : Bool
  /-- The messages, the last one first. -/
  messages : List (LogLevel × String)
  /-- The files with their contents, in the order in which they were made. -/
  files : List (String × String)
  /-- The samples that were handed over, the last one first. -/
  delivered : List Sample
  /-- After how many samples the listener fails. -/
  patience : Option Nat

namespace BenchPort

/-- A port that is open and has prepared answers. -/
def prepared (name : Given String) (settings : Option LineSettings) (replies : List ReadAnswer)
    (writes : List WriteAnswer) : BenchPort :=
  ⟨name, settings, replies, writes, [], 0, none, none, false⟩

/-- A port that could not be opened. -/
def unopened (name : Given String) (settings : LineSettings) : BenchPort :=
  { prepared name (some settings) [] [] with closed := true }

def notOpen : Fault := .external .serial "Attempting to use a port that is not open"

/-- Takes a line, unless the port is closed. -/
def write (port : BenchPort) (timeout : Number) (line : List UInt8) :
    Except Fault Int × BenchPort :=
  let waiting := { port with writeTimeout := some timeout }
  if port.closed then (.error notOpen, waiting)
  else
    let answer :=
      match port.writes.head?.getD .complete with
      | .complete => .ok (line.length : Int)
      | .count written => .ok written
      | .fault fault => .error fault
    (answer, { waiting with written := line :: port.written, writes := port.writes.tail })

/-- Gives the next prepared line, unless the port is closed. -/
def read (port : BenchPort) (timeout : Number) : Except Fault (List UInt8) × BenchPort :=
  let waiting := { port with readTimeout := some timeout }
  if port.closed then (.error notOpen, waiting)
  else
    let answer :=
      match port.replies.head?.getD .silence with
      | .silence => .ok []
      | .line bytes => .ok bytes
      | .fault fault => .error fault
    (answer, { waiting with reads := port.reads + 1, replies := port.replies.tail })

end BenchPort

namespace Bench

/-- A bench with nothing on it. -/
def empty (start : Instant) : Bench :=
  { ports := #[], openings := [], start := start, elapsed := 0, readingTime := 1000,
    stopwatch := none, debugShown := false, messages := [], files := [], delivered := [],
    patience := none }

/-- The content of a file, nothing if there is none. -/
def content (bench : Bench) : Destination → String
  | .file name => (bench.files.lookup name).getD ""
  | .elsewhere => ""

/-- Replaces the content of a file. -/
def replace (bench : Bench) (destination : Destination) (content : String) : Bench :=
  match destination with
  | .elsewhere => bench
  | .file name =>
    if (bench.files.lookup name).isSome then
      { bench with files := bench.files.map fun file =>
          if file.1 = name then (name, content) else file }
    else { bench with files := bench.files ++ [(name, content)] }

/-- Does something with the file that a path leads to. -/
def withFile {α : Type} (bench : Bench) (path : String) (action : Destination → α × Bench) :
    Except Fault α × Bench :=
  match Destination.ofPath (bench.files.map (·.1)) path with
  | .error fault => (.error (.external fault.kind (fault.message path)), bench)
  | .ok destination =>
    let (answer, after) := action destination
    (.ok answer, after)

/-- Opens a file and tells whether it is empty. -/
def startAppending (bench : Bench) (path : String) : Except Fault Bool × Bench :=
  bench.withFile path fun destination =>
    let content := bench.content destination
    (content.isEmpty, bench.replace destination content)

def append (bench : Bench) (path text : String) : Except Fault Unit × Bench :=
  bench.withFile path fun destination =>
    ((), bench.replace destination (bench.content destination ++ text))

/-- Replaces everything in a file. -/
def overwrite (bench : Bench) (path text : String) : Except Fault Unit × Bench :=
  bench.withFile path fun destination => ((), bench.replace destination text)

/-- The time on the clock. -/
def now (bench : Bench) : Except Fault Instant := do
  bench.start.plus (← Interval.ofMicroseconds bench.elapsed)

/-- Opens the next port. -/
def openPort (bench : Bench) (name : Given String) (settings : LineSettings) :
    Except Fault Port × Bench :=
  let index := bench.ports.size
  let (outcome, port) : Except Fault Port × BenchPort :=
    match bench.openings with
    | .opens replies writes :: _ =>
      (.ok ⟨index, name.text id⟩, .prepared name (some settings) replies writes)
    | .refused message :: _ => (.error (.external .serial message), .unopened name settings)
    | [] => (.error (.external .serial "no such port"), .unopened name settings)
  (outcome, { bench with ports := bench.ports.push port, openings := bench.openings.tail })

/-- Does something with a port of the bench. -/
def withPort {α : Type} (bench : Bench) (port : Port)
    (action : BenchPort → Except Fault α × BenchPort) : Except Fault α × Bench :=
  match bench.ports[port.index]? with
  | none => (.error BenchPort.notOpen, bench)
  | some found =>
    let (answer, changed) := action found
    (answer, { bench with ports := bench.ports.set! port.index changed })

def readLine (bench : Bench) (port : Port) (timeout : Number) :
    Except Fault (List UInt8) × Bench :=
  let (answer, changed) := bench.withPort port (·.read timeout)
  (answer, { changed with elapsed := changed.elapsed + bench.readingTime })

def closePort (bench : Bench) (port : Port) : Bench :=
  (bench.withPort port fun found => (.ok (), { found with closed := true })).2

/-- The stopwatch, in seconds. -/
def readStopwatch (bench : Bench) : Binary64 :=
  match bench.stopwatch with
  | some seconds => seconds
  | none =>
    Binary64.ofQuotient (decide (bench.elapsed < 0)) (bench.elapsed.natAbs * unitsPerOne) 1000000

/-- Hands a sample to the listener. -/
def deliver (bench : Bench) (sample : Sample) : Except Fault Unit × Bench :=
  if bench.patience = some bench.delivered.length then
    (.error (.external .state "sink failed"), bench)
  else (.ok (), { bench with delivered := sample :: bench.delivered })

/-- Keeps a message if messages of its level are shown. -/
def log (bench : Bench) (level : LogLevel) (message : String) : Bench :=
  if level = .debug && !bench.debugShown then bench
  else { bench with messages := (level, message) :: bench.messages }

/-- The answer to a request, and what becomes of the bench. -/
def answer (bench : Bench) : (request : Request) → request.Answer × Bench
  | .openPort name settings => bench.openPort name settings
  | .write port timeout line => bench.withPort port (·.write timeout line)
  | .readLine port timeout => bench.readLine port timeout
  | .closePort port => ((), bench.closePort port)
  | .now => (bench.now, bench)
  | .stopwatch => (bench.readStopwatch, bench)
  | .pause microseconds => (.ok (), { bench with elapsed := bench.elapsed + microseconds })
  | .pauseAtMost _ => (.ok (), bench)
  | .startAppending path => bench.startAppending path
  | .append path text => bench.append path text
  | .deliver sample => bench.deliver sample
  | .log level message => ((), bench.log level message)
  | .showDebug => ((), { bench with debugShown := true })

end Bench

/-- How a program ended. -/
inductive Outcome (α : Type)
  | result (value : α)
  | fault (fault : Fault)
  | unfinished
deriving DecidableEq

/-- Runs a program on a bench. -/
def Program.runOn {α : Type} : Program α → Bench → Outcome α × Bench
  | .result value, bench => (.result value, bench)
  | .fail fault, bench => (.fault fault, bench)
  | .unfinished, bench => (.unfinished, bench)
  | .ask request next, bench =>
    let (answer, after) := bench.answer request
    (next answer).runOn after

end SignalGenerator
