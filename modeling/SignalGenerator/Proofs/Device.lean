import Mathlib.Logic.Function.Basic
import SignalGenerator.Line.Command
import SignalGenerator.Line.Reply
import SignalGenerator.Proofs.Execution

/-!
A generator that keeps to the protocol, seen from its end of the line. It has a register for each
setting of a channel and one for the output, it shows a register when it is asked for, and it stores a
number where it is told to. Lines that it does not know it leaves alone.
-/

namespace SignalGenerator

/-- What the generator keeps a number for. -/
inductive Cell
  | register (channel : Int) (register : Register)
  | output
deriving DecidableEq

namespace Cell

/-- The generator switches the attenuation by itself, so that one cannot be set. -/
def settable : Cell → Bool
  | .register _ .attenuation => false
  | _ => true

/-- A numeral has as many characters at most as a reply has room for after the repeated command. -/
def room : Nat := 28

def Holds (cell : Cell) (n : Int) : Prop :=
  cell.settable ∧ (toString n).toList.length ≤ room

instance (cell : Cell) (n : Int) : Decidable (cell.Holds n) := by
  unfold Holds
  infer_instance

end Cell

/-- The numbers that a generator keeps: all of them short, and every attenuation switched one way or
the other. -/
structure RegisterFile where
  value : Cell → Int
  short : ∀ cell, (toString (value cell)).toList.length ≤ Cell.room
  switched : ∀ channel, value (.register channel .attenuation) = 0 ∨
    value (.register channel .attenuation) = 1

/-- Puts a number into one cell. -/
def RegisterFile.store (file : RegisterFile) {cell : Cell} {n : Int} (holds : cell.Holds n) :
    RegisterFile where
  value := Function.update file.value cell n
  short := by
    intro other
    by_cases same : other = cell
    · subst same
      rw [Function.update_self]
      exact holds.2
    · rw [Function.update_of_ne same]
      exact file.short other
  switched := by
    intro channel
    have other : Cell.register channel .attenuation ≠ cell := by
      rintro rfl
      cases holds.1
    rw [Function.update_of_ne other]
    exact file.switched channel

/-- What a line asks of the generator. -/
inductive Demand
  | read (cell : Cell)
  | set (cell : Cell) (n : Int)
deriving DecidableEq

namespace Demand

def channel? : Char → Option Int
  | '1' => some 1
  | '2' => some 2
  | _ => none

def register? : Char → Option Register
  | 'w' => some .waveform
  | 'y' => some .attenuation
  | 'f' => some .frequency
  | 'a' => some .amplitude
  | 'd' => some .dutyCycle
  | 'o' => some .offset
  | 'p' => some .phase
  | _ => none

def cell? (channel letter : Char) : Option Cell :=
  if channel = '1' ∧ letter = 'b' then some .output
  else return .register (← channel? channel) (← register? letter)

/-- The demand in a text: a colon, `r` or `s`, a cell, and the number to store in it. -/
def ofText? : List Char → Option Demand
  | [':', 'r', channel, letter] => (cell? channel letter).map .read
  | ':' :: 's' :: channel :: letter :: numeral => do
    let cell ← cell? channel letter
    return .set cell (← Reply.integer? (String.ofList numeral))
  | _ => none

end Demand

/-- How the generator words a reply: whether it acknowledges with `ok` or with nothing, and the line
ends that come last. -/
structure Manner where
  word : Bool
  terminator : List UInt8
  ends : terminator ≠ [] ∧ ∀ byte ∈ terminator, byte = 13 ∨ byte = 10

/-- A generator on a line: what it keeps, the replies that were not read yet, and how it will word the
next ones. -/
structure Device where
  file : RegisterFile
  waiting : List (List UInt8)
  manner : Nat → Manner

namespace Device

/-- The text of an acknowledgement. -/
def acknowledgement (device : Device) : List Char := if (device.manner 0).word then ['o', 'k'] else []

/-- Keeps these numbers from now on, and replies with this text. -/
def reply (device : Device) (file : RegisterFile) (text : List Char) : Device where
  file := file
  waiting := device.waiting ++
    [(text.map fun c => UInt8.ofNat c.toNat) ++ (device.manner 0).terminator]
  manner := fun count => device.manner (count + 1)

/-- Does what a text demands, if it demands anything that can be done. -/
def obey (device : Device) (text : List Char) : Device :=
  match Demand.ofText? text with
  | some (.read cell) =>
    device.reply device.file (text ++ (toString (device.file.value cell)).toList)
  | some (.set cell n) =>
    if holds : cell.Holds n then device.reply (device.file.store holds) device.acknowledgement
    else device
  | none => device

/-- Takes a line. It has to end with a line feed. -/
def take (device : Device) (line : List UInt8) : Device :=
  if line.getLast? = some 10 then device.obey (line.dropLast.map fun byte => Char.ofNat byte.toNat)
  else device

/-- Hands over the next reply, or nothing in time. -/
def speak (device : Device) : List UInt8 × Device :=
  match device.waiting with
  | [] => ([], device)
  | line :: rest => (line, { device with waiting := rest })

end Device

/-- A generator on one of the ports of a bench. -/
structure Desk where
  port : Port
  device : Device
  bench : Bench

namespace Desk

/-- The bench answers a request. -/
def onBench (desk : Desk) (request : Request) : request.Answer × Desk :=
  let (answer, bench) := desk.bench.answer request
  (answer, { desk with bench })

/-- What is written to the port of the generator reaches the generator, and what is read there comes
from it. Everything else happens on the bench. -/
def answer (desk : Desk) : (request : Request) → request.Answer × Desk
  | .write port timeout line =>
    if port = desk.port then (.ok (line.length : Int), { desk with device := desk.device.take line })
    else desk.onBench (.write port timeout line)
  | .readLine port timeout =>
    if port = desk.port then (.ok desk.device.speak.1, { desk with device := desk.device.speak.2 })
    else desk.onBench (.readLine port timeout)
  | request => desk.onBench request

theorem answer_write (desk : Desk) (timeout : Number) (line : List UInt8) :
    desk.answer (.write desk.port timeout line) =
      (.ok (line.length : Int), { desk with device := desk.device.take line }) := if_pos rfl

theorem answer_readLine (desk : Desk) (timeout : Number) :
    desk.answer (.readLine desk.port timeout) =
      (.ok desk.device.speak.1, { desk with device := desk.device.speak.2 }) := if_pos rfl

variable {desk : Desk} {port : Port} (other : port ≠ desk.port)

include other in
theorem answer_write_elsewhere (timeout : Number) (line : List UInt8) :
    desk.answer (.write port timeout line) = desk.onBench (.write port timeout line) := if_neg other

include other in
theorem answer_readLine_elsewhere (timeout : Number) :
    desk.answer (.readLine port timeout) = desk.onBench (.readLine port timeout) := if_neg other

end Desk

/-- Runs a program in surroundings of any kind. -/
def Program.runIn {σ α : Type} (answer : σ → (request : Request) → request.Answer × σ) :
    Program α → σ → Outcome α × σ
  | .result value, state => (.result value, state)
  | .fail fault, state => (.fault fault, state)
  | .unfinished, state => (.unfinished, state)
  | .ask request next, state =>
    let (given, after) := answer state request
    (next given).runIn answer after

/-- The steps that a program takes in surroundings of any kind. -/
def Program.stepsIn {σ α : Type} (answer : σ → (request : Request) → request.Answer × σ) :
    Program α → σ → List Step
  | .result _, _ | .fail _, _ | .unfinished, _ => []
  | .ask request next, state =>
    let (given, after) := answer state request
    ⟨request, given⟩ :: (next given).stepsIn answer after

/-- What a program does in its surroundings is an execution of it. -/
theorem Program.runs_runIn {σ α : Type} (answer : σ → (request : Request) → request.Answer × σ)
    (program : Program α) (state : σ) :
    program.Runs (program.stepsIn answer state) (program.runIn answer state).1 := by
  induction program generalizing state with
  | result => exact .result
  | fail => exact .fail
  | unfinished => exact .unfinished
  | ask request next ih => exact .ask (ih (answer state request).1 (answer state request).2)

/-- A call that reaches the other end of a port. -/
def PortCall.Reaches (port : Port) : PortCall → Prop
  | .wrote target _ _ => target = port
  | .read target _ => target = port
  | _ => False

/-- The generator on this port answers these calls, and this is what becomes of it. -/
inductive Device.Served (port : Port) : Device → List PortCall → Device → Prop
  | nil {device} : Served port device [] device
  | wrote {device line calls last} : Served port (device.take line) calls last →
      Served port device (.wrote port line (.ok line.length) :: calls) last
  | read {device calls last} : Served port device.speak.2 calls last →
      Served port device (.read port (.ok device.speak.1) :: calls) last
  | elsewhere {device call calls last} : ¬ call.Reaches port → Served port device calls last →
      Served port device (call :: calls) last

theorem Desk.answer_port (desk : Desk) (request : Request) :
    (desk.answer request).2.port = desk.port := by
  cases request with
  | write port timeout line =>
    by_cases own : port = desk.port
    · rw [own, answer_write]
    · rw [answer_write_elsewhere own, onBench]
  | readLine port timeout =>
    by_cases own : port = desk.port
    · rw [own, answer_readLine]
    · rw [answer_readLine_elsewhere own, onBench]
  | _ => rfl

/-- One request more, in front of the calls that are answered after it. -/
theorem Desk.answer_served {desk : Desk} {request : Request} {steps : List Step} {last : Device}
    (served : Device.Served desk.port (desk.answer request).2.device (portCalls steps) last) :
    Device.Served desk.port desk.device
      (portCalls (⟨request, (desk.answer request).1⟩ :: steps)) last := by
  cases request with
  | write port timeout line =>
    by_cases own : port = desk.port
    · subst own
      rw [answer_write] at served ⊢
      exact .wrote served
    · rw [answer_write_elsewhere own] at served ⊢
      exact .elsewhere own served
  | readLine port timeout =>
    by_cases own : port = desk.port
    · subst own
      rw [answer_readLine] at served ⊢
      exact .read served
    · rw [answer_readLine_elsewhere own] at served ⊢
      exact .elsewhere own served
  | openPort name settings => exact .elsewhere id served
  | closePort port => exact .elsewhere id served
  | _ => exact served

/-- The generator answers the calls that a program makes on a desk. -/
theorem Desk.served_stepsIn {α : Type} (program : Program α) (desk : Desk) :
    Device.Served desk.port desk.device (portCalls (program.stepsIn Desk.answer desk))
      (program.runIn Desk.answer desk).2.device := by
  induction program generalizing desk with
  | ask request next ih =>
    have served := ih (desk.answer request).1 (desk.answer request).2
    rw [desk.answer_port] at served
    exact Desk.answer_served served
  | _ => exact .nil

/-- What a program does on a desk is an execution that the generator answers. -/
theorem Desk.runs_runIn {α : Type} (program : Program α) (desk : Desk) :
    ∃ steps, program.Runs steps (program.runIn Desk.answer desk).1 ∧
      Device.Served desk.port desk.device (portCalls steps)
        (program.runIn Desk.answer desk).2.device :=
  ⟨_, program.runs_runIn Desk.answer desk, desk.served_stepsIn program⟩

theorem Desk.runIn_port {α : Type} (program : Program α) (desk : Desk) :
    (program.runIn Desk.answer desk).2.port = desk.port := by
  induction program generalizing desk with
  | ask request next ih =>
    rw [Program.runIn]
    exact (ih _ _).trans (desk.answer_port request)
  | _ => rfl

end SignalGenerator
