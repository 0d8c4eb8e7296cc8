import SignalGenerator.Proofs.Device
import SignalGenerator.Proofs.Validation

/-!
What the generator answers. Every command for a setting reaches the register that it names, so an
exchange with the generator never fails: it reads the number that is kept, or it stores one.
-/

namespace SignalGenerator

/-- A line answers a command with one integer at most. -/
theorem Reply.Answers.unique {command : String} {line : List UInt8} {m n : Int}
    (first : Reply.Answers command line m) (second : Reply.Answers command line n) : m = n := by
  obtain ⟨reply, read, _, denoted⟩ := first
  obtain ⟨again, readAgain, _, denotedAgain⟩ := second
  cases Except.ok.inj (read.symm.trans readAgain)
  exact Except.ok.inj (denoted.symm.trans denotedAgain)

namespace Command

/-- A command that asks for the number in a cell, in a text that can be repeated in a reply. -/
structure Asks (command : Command) (cell : Cell) : Prop where
  expects : command.expects = .integer
  demand : Demand.ofText? command.text.toList = some (.read cell)
  tag : command.text.toList.length = Reply.tagLength
  inside : ∀ c ∈ command.text.toList, Inline c

/-- A command that puts a number into a cell. -/
structure Tells (command : Command) (cell : Cell) (n : Int) : Prop where
  expects : command.expects = .acknowledgement
  demand : Demand.ofText? command.text.toList = some (.set cell n)
  holds : cell.Holds n

theorem asks_read {channel : Int} (known : channel ∈ channels) (register : Register) :
    (read channel register).Asks (.register channel register) := by
  have all : ∀ channel ∈ channels, ∀ register : Register,
      Demand.ofText? (read channel register).text.toList = some (.read (.register channel register)) ∧
        (read channel register).text.toList.length = Reply.tagLength := by
    intro channel known register
    revert channel
    cases register <;> decide
  obtain ⟨demand, tag⟩ := all channel known register
  exact ⟨rfl, demand, tag, inline_read known register⟩

theorem asks_readOutput : readOutput.Asks .output :=
  ⟨rfl, by decide, by decide, inline_of_all (by decide)⟩

/-- A setting is read back character by character: its first four name the register, and the others
are its numeral. -/
theorem tells_set {channel : Int} (known : channel ∈ channels) {register : Register}
    (other : register ≠ .attenuation) {n : Nat} (small : n < 10 ^ 28) :
    (set channel register n).Tells (.register channel register) n := by
  have front : ∀ channel ∈ channels, ∀ register : Register,
      (['1', '2'].any fun digit => ['w', 'y', 'f', 'a', 'd', 'o', 'p'].any fun letter =>
        decide ((s!":s{channel}{register.letter}").toList = [':', 's', digit, letter] ∧
          Demand.cell? digit letter = some (.register channel register))) = true := by
    intro channel known register
    revert channel
    cases register <;> decide
  obtain ⟨digit, _, second⟩ := List.any_eq_true.mp (front channel known register)
  obtain ⟨letter, _, found⟩ := List.any_eq_true.mp second
  obtain ⟨beginning, cell⟩ := of_decide_eq_true found
  have parts : (set channel register n).text.toList =
      (s!":s{channel}{register.letter}").toList ++ (toString (n : Int)).toList := String.toList_append
  refine ⟨rfl, ?_, ?_, ?_⟩
  · rw [parts, beginning]
    show (do
      let cell ← Demand.cell? digit letter
      return Demand.set cell (← Reply.integer? (String.ofList (toString (n : Int)).toList))) = _
    rw [cell, String.ofList_toList, Reply.integer?_toString]
    rfl
  · cases register <;> first | rfl | contradiction
  · exact length_toString_le (by decide) small

theorem tells_setOutput (enabled : Bool) :
    (setOutput enabled).Tells .output (if enabled then 1 else 0) := by
  cases enabled
  · exact ⟨rfl, by decide, by decide⟩
  · exact ⟨rfl, by decide, by decide⟩

end Command

namespace Device

variable {device last : Device} {command : Command} {cell : Cell} {line : List UInt8}

/-- A framed command is obeyed as the text that it was. -/
theorem take_frame {text : String} (framed : Exchange.frame text = .ok line) :
    device.take line = device.obey text.toList := by
  obtain ⟨ascii, rfl⟩ := Exchange.of_frame framed
  have feed : ((text.toList.map fun (c : Char) => UInt8.ofNat c.toNat) ++ [10]).getLast? = some 10 :=
    List.getLast?_concat
  unfold take
  rw [if_pos feed, List.dropLast_concat, map_bytes ascii]

theorem speak_reply (idle : device.waiting = []) (file : RegisterFile) (text : List Char) :
    (device.reply file text).speak =
      ((text.map fun c => UInt8.ofNat c.toNat) ++ (device.manner 0).terminator,
        ⟨file, [], fun count => device.manner (count + 1)⟩) := by
  unfold speak reply
  rw [idle]
  rfl

theorem reply_nonempty (text : List Char) :
    (text.map fun c => UInt8.ofNat c.toNat) ++ (device.manner 0).terminator ≠ [] :=
  List.append_ne_nil_of_right_ne_nil _ (device.manner 0).ends.1

/-- A command that asks for a number is answered with it, and nothing is changed. -/
theorem asked (asks : command.Asks cell) (framed : Exchange.frame command.text = .ok line)
    (idle : device.waiting = []) :
    ∃ reply after, (device.take line).speak = (reply, after) ∧ reply ≠ [] ∧
      Reply.Answers command.text reply (device.file.value cell) ∧ after.file = device.file ∧
      after.waiting = [] := by
  have obeyed : device.obey command.text.toList = device.reply device.file
      (command.text.toList ++ (toString (device.file.value cell)).toList) := by
    unfold obey
    rw [asks.demand]
  have spoken := speak_reply idle device.file
    (command.text.toList ++ (toString (device.file.value cell)).toList)
  rw [← obeyed, ← take_frame framed] at spoken
  have answers := Reply.answers_numeral asks.tag asks.inside (device.file.short cell)
    (device.manner 0).ends.2
  exact ⟨_, _, spoken, device.reply_nonempty _, answers, rfl, rfl⟩

/-- A command that stores a number is acknowledged, and the number is stored. -/
theorem told {n : Int} (tells : command.Tells cell n)
    (framed : Exchange.frame command.text = .ok line) (idle : device.waiting = []) :
    ∃ reply after, (device.take line).speak = (reply, after) ∧
      command.transaction.Accepts reply ∧
      after.file = device.file.store tells.holds ∧ after.waiting = [] := by
  have obeyed : device.obey command.text.toList =
      device.reply (device.file.store tells.holds) device.acknowledgement := by
    unfold obey
    rw [tells.demand]
    exact dif_pos tells.holds
  have inside : ∀ c ∈ device.acknowledgement, Inline c := by
    unfold acknowledgement
    split
    · exact inline_of_all (by decide)
    · exact nofun
  have taken : command.transaction.Takes (String.ofList device.acknowledgement) := by
    unfold Transaction.Takes Command.transaction acknowledgement
    rw [tells.expects]
    show Reply.acknowledge command.text _ = .ok ()
    split <;> rfl
  have spoken := speak_reply idle (device.file.store tells.holds) device.acknowledgement
  rw [← obeyed, ← take_frame framed] at spoken
  have read := Reply.ofLine_text inside (device.manner 0).ends.2
  exact ⟨_, _, spoken, ⟨device.reply_nonempty _, _, read, taken⟩, rfl, rfl⟩

/-- The generator keeps these numbers, and all of its replies were read. -/
structure Rests (device : Device) (file : RegisterFile) : Prop where
  file : device.file = file
  idle : device.waiting = []

namespace Served

variable {port : Port} {file : RegisterFile} {first rest calls : List PortCall}

theorem append (served : Served port device (first ++ rest) last) :
    ∃ middle, Served port device first middle ∧ Served port middle rest last := by
  induction first generalizing device with
  | nil => exact ⟨device, .nil, served⟩
  | cons call first ih =>
    cases served with
    | wrote later =>
      obtain ⟨middle, early, late⟩ := ih later
      exact ⟨middle, .wrote early, late⟩
    | read later =>
      obtain ⟨middle, early, late⟩ := ih later
      exact ⟨middle, .read early, late⟩
    | elsewhere away later =>
      obtain ⟨middle, early, late⟩ := ih later
      exact ⟨middle, .elsewhere away early, late⟩

theorem of_nil (served : Served port device [] last) : last = device := by
  cases served
  rfl

theorem of_wrote {answer : Except Fault Int}
    (served : Served port device (.wrote port line answer :: calls) last) :
    answer = .ok line.length ∧ Served port (device.take line) calls last := by
  cases served with
  | wrote later => exact ⟨rfl, later⟩
  | elsewhere away _ => exact absurd rfl away

theorem of_read {answer : Except Fault (List UInt8)}
    (served : Served port device (.read port answer :: calls) last) :
    answer = .ok device.speak.1 ∧ Served port device.speak.2 calls last := by
  cases served with
  | read later => exact ⟨rfl, later⟩
  | elsewhere away _ => exact absurd rfl away

/-- A transaction that the generator answers does not fail. -/
theorem answered {transaction : Transaction} {accepted : Option (List UInt8)}
    (made : transaction.Makes port calls accepted) (served : Served port device calls last)
    (accepts : ∀ line, Exchange.frame transaction.command = .ok line →
      transaction.Accepts (device.take line).speak.1) :
    ∃ line, Exchange.frame transaction.command = .ok line ∧
      accepted = some (device.take line).speak.1 ∧ last = (device.take line).speak.2 := by
  cases made with
  | unwritten framed short => exact absurd served.of_wrote.1 short
  | refused framed refused =>
    obtain ⟨_, later⟩ := served.of_wrote
    obtain ⟨same, _⟩ := later.of_read
    exact absurd (accepts _ framed) (refused _ same)
  | answered framed accepted =>
    obtain ⟨_, later⟩ := served.of_wrote
    obtain ⟨same, done⟩ := later.of_read
    exact ⟨_, framed, congrArg some (Except.ok.inj same), done.of_nil⟩

/-- An exchange with the generator reads the number that is kept. -/
theorem exchanged {n : Int} (asks : command.Asks cell) (exchanged : Exchanged port command n calls)
    (rests : device.Rests file) (served : Served port device calls last) :
    n = file.value cell ∧ last.Rests file := by
  obtain ⟨line, reply, framed, answers, rfl⟩ := exchanged
  obtain ⟨_, later⟩ := served.of_wrote
  obtain ⟨same, done⟩ := later.of_read
  obtain ⟨spoken, after, spoke, _, meant, kept, idle⟩ := asked asks framed rests.idle
  rw [spoke] at same done
  cases Except.ok.inj same
  cases done.of_nil
  refine ⟨?_, kept.trans rests.file, idle⟩
  rw [answers.unique meant, rests.file]

theorem not_failed (asks : command.Asks cell) (rests : device.Rests file)
    (made : command.transaction.Makes port calls none) : ¬ Served port device calls last := by
  intro served
  have accepts : ∀ line, Exchange.frame command.text = .ok line →
      command.transaction.Accepts (device.take line).speak.1 := by
    intro line framed
    obtain ⟨reply, after, spoke, nonempty, ⟨text, read, checked, meant⟩, _⟩ :=
      asked asks framed rests.idle
    rw [spoke]
    refine ⟨nonempty, text, read, ?_⟩
    unfold Transaction.Takes Command.transaction
    rw [asks.expects]
    exact ⟨checked, _, meant⟩
  obtain ⟨_, _, none, _⟩ := answered made served accepts
  cases none

/-- A command that is sent to the generator stores its number. -/
theorem sent {n : Int} {ending : Outcome Reading} (tells : command.Tells cell n)
    (rests : device.Rests file) (sent : command.Sent port calls ending)
    (served : Served port device calls last) :
    ending = .result .done ∧ last.Rests (file.store tells.holds) := by
  have accepts : ∀ line, Exchange.frame command.text = .ok line →
      command.transaction.Accepts (device.take line).speak.1 := by
    intro line framed
    obtain ⟨reply, after, spoke, accepted, _⟩ := told tells framed rests.idle
    rw [spoke]
    exact accepted
  cases sent with
  | unacknowledged made =>
    obtain ⟨_, _, none, _⟩ := answered made served accepts
    cases none
  | acknowledged made =>
    obtain ⟨line, framed, _, rfl⟩ := answered made served accepts
    obtain ⟨reply, after, spoke, _, stored, idle⟩ := told tells framed rests.idle
    rw [spoke]
    refine ⟨rfl, ?_, idle⟩
    cases rests.file
    exact stored

end Served

end Device

end SignalGenerator
