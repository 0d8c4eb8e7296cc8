import SignalGenerator.Line.Reply
import SignalGenerator.Program

/-!
One command and its reply. The generator does not number its replies, so a command is only written
after the reply to the one before it has been read, and nothing is written or read again after a
failure.
-/

namespace SignalGenerator.Exchange

/-- How long to wait for the port, in seconds, when a line is written or read. -/
def timeout : Number := .real (Binary64.ofDecimal false 5 (-2))

/-- The bytes of a command with its line feed. -/
def frame (command : String) : Except Fault (List UInt8) :=
  let line := command.toList ++ ['\n']
  if line.all (fun c => decide (c.toNat < 128)) then .ok (line.map fun c => UInt8.ofNat c.toNat)
  else .error (.unencodable command)

/-- Passes a fault of the serial port on as what it interrupted. Other faults pass as they are. -/
def explain {α : Type} (cause : String → Fault) (answer : Except Fault α) : Except Fault α :=
  answer.mapError fun fault => if fault.isOf .serial then cause fault.message else fault

def writeLine (port : Port) (line : List UInt8) : Program Int := do
  Program.debug s!"Serial command on {port.name}: {Quoted.bytes line}"
  Program.write port timeout line

def readLine (port : Port) (wait : Number) : Program (List UInt8) := do
  let line ← Program.readLine port wait
  Program.debug s!"Serial response on {port.name}: {Quoted.bytes line}"
  return line

/-- Writes a command. The port has to take all of it. -/
def send (port : Port) (command : String) : Program Unit := do
  let line ← Program.ofExcept (frame command)
  let answer ← (writeLine port line).attempt
  let written ← Program.ofExcept (explain (.sendFailed command) answer)
  if written ≠ line.length then Program.fail (.shortWrite command written line.length)

/-- The milliseconds in a timeout, as a message gives them. -/
def millisecondsText (wait : Number) : Except ArithmeticFault String :=
  return (← (← wait.mul 1000).toReal).wholeText

/-- Reads a reply. A line of no bytes means that nothing has come in time. -/
def receive (port : Port) (wait : Number) : Program String := do
  let answer ← (readLine port wait).attempt
  let line ← Program.ofExcept (explain .readFailed answer)
  if line.isEmpty then
    let milliseconds ← Program.ofArithmetic (millisecondsText wait)
    Program.fail (.noReply milliseconds)
  Program.ofExcept (Reply.ofLine line)

/-- Sends a command that is only acknowledged. -/
def order (port : Port) (command : String) : Program Unit := do
  send port command
  let reply ← receive port timeout
  Program.ofExcept (Reply.acknowledge command reply)

/-- Sends a command that is answered with a value, and gives the whole reply. -/
def query (port : Port) (command : String) : Program String := do
  send port command
  let reply ← receive port timeout
  Program.ofExcept (Reply.checkData command reply)

/-- Sends a command that is answered with an integer. -/
def queryInteger (port : Port) (command : String) : Program Int := do
  let reply ← query port command
  Program.ofExcept (Reply.integer command reply)

end SignalGenerator.Exchange
