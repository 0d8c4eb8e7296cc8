import SignalGenerator.Acquisition.Sampler
import SignalGenerator.Instrument.Operation
import SignalGenerator.Proofs.Transaction

/-!
One command at a time. Whatever talks to a generator makes one transaction after the other, and the
first call that goes wrong is the last one: a reply is always read right after its own command was
written, and nothing is repeated.
-/

namespace SignalGenerator

/-- Calls on a port that belong to whole transactions, one after the other. All of them were answered
when they are `complete`; otherwise the last one was not. -/
inductive InTurn (port : Port) (allowed : Transaction → Prop) : List PortCall → Bool → Prop
  | silent : InTurn port allowed [] true
  | stopped {transaction calls} : allowed transaction → transaction.Makes port calls none →
      InTurn port allowed calls false
  | next {transaction calls reply rest complete} : allowed transaction →
      transaction.Makes port calls (some reply) → InTurn port allowed rest complete →
      InTurn port allowed (calls ++ rest) complete

namespace PortCall

def isWrite : PortCall → Bool
  | .wrote .. => true
  | _ => false

def isRead : PortCall → Bool
  | .read .. => true
  | _ => false

/-- A call that already went wrong on the port: not all of a line was written, or no line of ASCII
came back. -/
def Failed : PortCall → Prop
  | .opened _ answer => ∀ port, answer ≠ .ok port
  | .wrote _ line answer => answer ≠ .ok (line.length : Int)
  | .read _ answer => ∀ line, answer = .ok line → line = [] ∨ ∃ byte ∈ line, 128 ≤ byte
  | .closed _ => False

end PortCall

theorem Transaction.Accepts.not_failed {transaction : Transaction} {port : Port} {line : List UInt8}
    (accepted : transaction.Accepts line) : ¬ (PortCall.read port (.ok line)).Failed := by
  obtain ⟨nonempty, reply, decoded, _⟩ := accepted
  intro failed
  rcases failed line rfl with empty | ⟨byte, member, wide⟩
  · exact nonempty empty
  · unfold Reply.ofLine at decoded
    split at decoded
    · rename_i narrow
      have bound := List.all_eq_true.mp narrow byte member
      simp only [decide_eq_true_eq] at bound
      exact absurd bound (UInt8.not_lt.mpr wide)
    · cases decoded

namespace InTurn

variable {port : Port} {allowed : Transaction → Prop} {calls rest : List PortCall}
  {complete : Bool}

theorem append (first : InTurn port allowed calls true) (last : InTurn port allowed rest complete) :
    InTurn port allowed (calls ++ rest) complete := by
  generalize whole : true = answered at first
  induction first with
  | silent => exact last
  | stopped => cases whole
  | next fits made _ ih =>
    rw [List.append_assoc]
    exact .next fits made (ih whole)

/-- At most one command is waiting for its reply, and none when all were answered. -/
theorem count_eq (turns : InTurn port allowed calls complete) :
    calls.countP PortCall.isWrite = calls.countP PortCall.isRead ∨
      complete = false ∧
        calls.countP PortCall.isWrite = calls.countP PortCall.isRead + 1 := by
  induction turns with
  | silent => exact Or.inl rfl
  | stopped _ made =>
    cases made with
    | unwritten => exact Or.inr ⟨rfl, rfl⟩
    | refused => exact Or.inl rfl
  | next _ made _ ih =>
    cases made with
    | answered =>
      simp only [List.cons_append, List.nil_append, List.countP_cons, PortCall.isWrite,
        PortCall.isRead, Bool.false_eq_true, if_false, if_true]
      rcases ih with even | ⟨incomplete, odd⟩
      · exact Or.inl (by omega)
      · exact Or.inr ⟨incomplete, by omega⟩

/-- Nothing comes after a call that went wrong. -/
theorem failed_last (turns : InTurn port allowed calls complete) {before after : List PortCall}
    {call : PortCall} (split : calls = before ++ call :: after) (failed : call.Failed) :
    after = [] := by
  induction turns generalizing before with
  | silent => simp at split
  | stopped _ made =>
    cases made with
    | unwritten => cases before <;> simp_all
    | refused =>
      cases before with
      | nil =>
        obtain ⟨rfl, _⟩ := List.cons.inj split
        exact absurd rfl failed
      | cons _ before => cases before <;> simp_all
  | next _ made _ ih =>
    cases made with
    | answered _ accepted =>
      cases before with
      | nil =>
        obtain ⟨rfl, _⟩ := List.cons.inj split
        exact absurd rfl failed
      | cons _ before =>
        obtain ⟨_, split⟩ := List.cons.inj split
        cases before with
        | nil =>
          obtain ⟨rfl, _⟩ := List.cons.inj split
          exact absurd failed accepted.not_failed
        | cons _ before => exact ih (List.cons.inj split).2

/-- A line is only written for the command of an allowed transaction. -/
theorem written {target : Port} {line : List UInt8} {answer : Except Fault Int}
    (turns : InTurn port allowed calls complete) (member : .wrote target line answer ∈ calls) :
    target = port ∧ ∃ transaction, allowed transaction ∧
      Exchange.frame transaction.command = .ok line := by
  induction turns with
  | silent => cases member
  | stopped fits made =>
    obtain ⟨_, _, split⟩ := List.append_of_mem member
    obtain ⟨_, same, framed⟩ := made.written split
    exact ⟨same, _, fits, framed⟩
  | next fits made _ ih =>
    rcases List.mem_append.mp member with inFirst | inRest
    · obtain ⟨_, _, split⟩ := List.append_of_mem inFirst
      obtain ⟨_, same, framed⟩ := made.written split
      exact ⟨same, _, fits, framed⟩
    · exact ih inRest

theorem mono {wider : Transaction → Prop} (turns : InTurn port allowed calls complete)
    (implies : ∀ transaction, allowed transaction → wider transaction) :
    InTurn port wider calls complete := by
  induction turns with
  | silent => exact .silent
  | stopped fits made => exact .stopped (implies _ fits) made
  | next fits made _ ih => exact .next (implies _ fits) made ih

end InTurn

/-- Every execution of the program makes whole transactions on the port, and it has failed where one
of them was not answered. -/
def Program.TakesTurns {α : Type} (port : Port) (allowed : Transaction → Prop)
    (program : Program α) : Prop :=
  ∀ steps ending, program.Runs steps ending → ∃ complete,
    InTurn port allowed (portCalls steps) complete ∧
      (complete = false → ∃ fault, ending = .fault fault)

namespace Program.TakesTurns

variable {α β : Type} {port : Port} {allowed : Transaction → Prop}

theorem mono {program : Program α} {wider : Transaction → Prop}
    (turns : program.TakesTurns port allowed)
    (implies : ∀ transaction, allowed transaction → wider transaction) :
    program.TakesTurns port wider := by
  intro steps ending run
  obtain ⟨complete, made, failing⟩ := turns _ _ run
  exact ⟨complete, made.mono implies, failing⟩

theorem of_quiet {program : Program α} (quiet : program.Quiet) : program.TakesTurns port allowed := by
  intro steps ending run
  rw [quiet _ _ run]
  exact ⟨true, .silent, nofun⟩

theorem of_ends {program : Program α} {transaction : Transaction} {gives : List UInt8 → α → Prop}
    (fits : allowed transaction)
    (ends : ∀ steps ending, program.Runs steps ending →
      transaction.Ends port gives (portCalls steps) ending) :
    program.TakesTurns port allowed := by
  intro steps ending run
  have ended := ends steps ending run
  generalize portCalls steps = calls at ended ⊢
  cases ended with
  | unencodable => exact ⟨true, .silent, nofun⟩
  | failed made => exact ⟨false, .stopped fits made, fun _ => ⟨_, rfl⟩⟩
  | answered made _ =>
    refine ⟨true, ?_, nofun⟩
    have turns := InTurn.next fits made .silent
    rwa [List.append_nil] at turns

theorem bind {program : Program α} {next : α → Program β} (first : program.TakesTurns port allowed)
    (rest : ∀ value, (next value).TakesTurns port allowed) :
    (program.bind next).TakesTurns port allowed := by
  intro steps ending run
  rcases run.of_bind with ⟨value, early, late, rfl, begun, ended⟩ | ⟨fault, failed, rfl⟩ | ⟨stuck, rfl⟩
  · obtain ⟨whole, before, ends⟩ := first _ _ begun
    obtain ⟨complete, after, failing⟩ := rest value _ _ ended
    cases whole with
    | false =>
      obtain ⟨fault, impossible⟩ := ends rfl
      cases impossible
    | true => exact ⟨complete, portCalls_append early late ▸ before.append after, failing⟩
  · obtain ⟨complete, turns, _⟩ := first _ _ failed
    exact ⟨complete, turns, fun _ => ⟨fault, rfl⟩⟩
  · obtain ⟨complete, turns, ends⟩ := first _ _ stuck
    refine ⟨complete, turns, fun incomplete => ?_⟩
    obtain ⟨fault, impossible⟩ := ends incomplete
    cases impossible

theorem fail (fault : Fault) : (Program.fail fault : Program α).TakesTurns port allowed :=
  of_quiet (.fail fault)

theorem ofExcept (answer : Except Fault α) : (Program.ofExcept answer).TakesTurns port allowed :=
  of_quiet (.ofExcept answer)

theorem ofExcept_bind {answer : Except Fault α} {next : α → Program β}
    (rest : ∀ value, answer = .ok value → (next value).TakesTurns port allowed) :
    ((Program.ofExcept answer).bind next).TakesTurns port allowed := by
  cases answer with
  | ok value => exact rest value rfl
  | error fault => exact fail fault

theorem ofArithmetic_bind {answer : Except ArithmeticFault α} {next : α → Program β}
    (rest : ∀ value, answer = .ok value → (next value).TakesTurns port allowed) :
    ((Program.ofArithmetic answer).bind next).TakesTurns port allowed := by
  cases answer with
  | ok value => exact rest value rfl
  | error fault => exact fail _

theorem order {command : String} (fits : allowed ⟨command, .acknowledgement⟩) :
    (Exchange.order port command).TakesTurns port allowed :=
  of_ends fits fun _ _ => Exchange.order_runs

theorem query {command : String} (fits : allowed ⟨command, .data⟩) :
    (Exchange.query port command).TakesTurns port allowed :=
  of_ends fits fun _ _ => Exchange.query_runs

theorem queryInteger {command : String} (fits : allowed ⟨command, .integer⟩) :
    (Exchange.queryInteger port command).TakesTurns port allowed :=
  of_ends fits fun _ _ => Exchange.queryInteger_runs

end Program.TakesTurns

/-- What a command has to be answered with: reading the model with data, any other reading with an
integer, and all else with an acknowledgement. -/
def Command.expects : Command → Expectation
  | .readModel => .data
  | .read .. | .readOutput | .readCounter => .integer
  | _ => .acknowledgement

def Command.transaction (command : Command) : Transaction := ⟨command.text, command.expects⟩

/-- A setting is only asked for on a channel that there is. -/
def Command.Addressed : Command → Prop
  | .read channel _ => channel ∈ channels
  | _ => True

namespace Command

/-- After the colon, a command that is just acknowledged has an `s`, and one that asks for a value an `r`. -/
theorem text_begins (command : Command) :
    ∃ rest, command.text.toList = ':' :: (match command.expects with
      | .acknowledgement => 's'
      | .data | .integer => 'r') :: rest := by
  cases command with
  | readModel | readOutput | readCounter => exact ⟨_, rfl⟩
  | _ =>
    simp only [text, String.toList_append]
    exact ⟨_, rfl⟩

/-- A reading of a register ends with the letter of the register. -/
theorem text_ends (channel : Int) (register : Register) :
    (read channel register).text.toList.getLast? = register.letter.toList.getLast? := by
  simp only [text, String.toList_append, List.getLast?_append]
  cases register <;> rfl

/-- No other command has the text of one that asks for the model or for the number of the counter. -/
theorem eq_of_text {command single : Command} (kind : single = .readModel ∨ single = .readCounter)
    (same : command.text = single.text) : command = single := by
  have begins := command.text_begins
  rw [same] at begins
  cases command with
  | read channel register =>
    have ends := text_ends channel register
    rw [same] at ends
    rcases kind with rfl | rfl <;> cases register <;> exact absurd ends (by decide)
  | readModel | readOutput | readCounter =>
    rcases kind with rfl | rfl <;> first | rfl | exact absurd same (by decide)
  | _ =>
    obtain ⟨_, letters⟩ := begins
    rcases kind with rfl | rfl <;> cases letters

end Command

end SignalGenerator
