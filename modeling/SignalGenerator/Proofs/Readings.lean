import SignalGenerator.Proofs.Encoding
import SignalGenerator.Proofs.Lines
import SignalGenerator.Proofs.Operations

/-!
What a reading that succeeded was made from: every value that an operation goes on with is the answer
to an exchange of its own.
-/

namespace SignalGenerator

open Program (TakesTurns)

/-- The calls of an exchange in which a command was written in full and answered with an integer. -/
def Exchanged (port : Port) (command : Command) (n : Int) (calls : List PortCall) : Prop :=
  ∃ line reply, Exchange.frame command.text = .ok line ∧ Reply.Answers command.text reply n ∧
    calls = [.wrote port line (.ok line.length), .read port (.ok reply)]

/-- A reply has room for 28 characters after the repeated command. -/
theorem Reply.natAbs_lt {command reply : String} {n : Int}
    (passed : Reply.checkData command reply = .ok reply)
    (denoted : Reply.integer command reply = .ok n) : n.natAbs < 10 ^ 28 := by
  have length : reply.toList.length ≤ Reply.longest := by
    unfold Reply.checkData at passed
    dsimp only at passed
    split at passed
    · cases passed
    split at passed
    · cases passed
    · rename_i fits
      exact Nat.not_lt.mp fits
  have short : (Reply.value reply).toList.length ≤ 28 := by
    rw [Reply.value, String.toList_ofList, List.length_drop]
    exact Nat.sub_le_of_le_add length
  unfold Reply.integer at denoted
  split at denoted
  · rename_i read
    cases Except.ok.inj denoted
    exact Reply.integer?_natAbs_lt read short
  · cases denoted

theorem Reply.Answers.nonempty {command : String} {line : List UInt8} {n : Int}
    (answers : Reply.Answers command line n) : line ≠ [] := by
  rintro rfl
  obtain ⟨reply, decoded, passed, _⟩ := answers
  cases Except.ok.inj decoded
  cases passed

/-- The calls of such an exchange are those of a transaction. -/
theorem Exchanged.makes {port : Port} {command : Command} {n : Int} {calls : List PortCall}
    (exchanged : Exchanged port command n calls) : ∃ reply, Reply.Answers command.text reply n ∧
      Transaction.Makes ⟨command.text, .integer⟩ port calls (some reply) := by
  obtain ⟨line, reply, framed, answers, rfl⟩ := exchanged
  obtain ⟨text, decoded, passed, denoted⟩ := answers
  refine ⟨reply, ⟨text, decoded, passed, denoted⟩, .answered framed ?_⟩
  exact ⟨Reply.Answers.nonempty ⟨text, decoded, passed, denoted⟩, text, decoded, passed, n, denoted⟩

theorem Exchanged.natAbs_lt {port : Port} {command : Command} {n : Int} {calls : List PortCall}
    (exchanged : Exchanged port command n calls) : n.natAbs < 10 ^ 28 := by
  obtain ⟨_, _, _, ⟨_, _, passed, denoted⟩, _⟩ := exchanged
  exact Reply.natAbs_lt passed denoted

/-- An attenuation was read from a channel. -/
def AttenuationRead (port : Port) (channel : Int) (attenuation : Attenuation) (calls : List PortCall) :
    Prop :=
  ∃ n, Exchanged port (.read channel .attenuation) n calls ∧ Attenuation.ofId? n = some attenuation

/-- An attenuation was asked for and not understood. -/
inductive AttenuationUnread (port : Port) (channel : Int) : List PortCall → Prop
  | unanswered {calls} : (Command.read channel .attenuation).transaction.Makes port calls none →
      AttenuationUnread port channel calls
  | unknown {n calls} : Exchanged port (.read channel .attenuation) n calls →
      Attenuation.ofId? n = none → AttenuationUnread port channel calls

/-- An amplitude was read from a channel, after the attenuation that it is scaled for. -/
inductive AmplitudeRead (port : Port) (channel : Int) (amplitude : Binary64) : List PortCall → Prop
  | scaled {attenuation raw first second} : AttenuationRead port channel attenuation first →
      Exchanged port (.read channel .amplitude) raw second →
      Scaling.decodeAmplitude raw attenuation = .ok amplitude →
      AmplitudeRead port channel amplitude (first ++ second)

/-- An amplitude was asked for and not understood. -/
inductive AmplitudeUnread (port : Port) (channel : Int) : List PortCall → Prop
  | unscaled {calls} : AttenuationUnread port channel calls → AmplitudeUnread port channel calls
  | unanswered {attenuation first second} : AttenuationRead port channel attenuation first →
      (Command.read channel .amplitude).transaction.Makes port second none →
      AmplitudeUnread port channel (first ++ second)

namespace Setting

variable {port : Port} {channel : Int} {steps : List Step}

theorem read_runs {command : Command} {ending : Outcome Int}
    (framed : ∃ line, Exchange.frame command.text = .ok line)
    (run : (read port command).Runs steps ending) :
    (∃ n, ending = .result n ∧ Exchanged port command n (portCalls steps)) ∨
      ∃ fault, ending = .fault fault ∧
        Transaction.Makes ⟨command.text, .integer⟩ port (portCalls steps) none := by
  have ended := Exchange.queryInteger_runs run
  generalize portCalls steps = calls at ended ⊢
  obtain ⟨line, framed⟩ := framed
  cases ended with
  | unencodable unframed => cases framed.symm.trans unframed
  | failed made => exact Or.inr ⟨_, rfl, made⟩
  | answered made answers =>
    cases made with
    | answered framed accepted => exact Or.inl ⟨_, rfl, _, _, framed, answers, rfl⟩

/-- A program that begins with a reading goes on with the answer, or it ends where there is none. -/
theorem read_bind_runs {α : Type} {command : Command} {next : Int → Program α} {ending : Outcome α}
    (framed : ∃ line, Exchange.frame command.text = .ok line)
    (run : ((read port command).bind next).Runs steps ending) :
    (∃ n first rest, steps = first ++ rest ∧ Exchanged port command n (portCalls first) ∧
        (next n).Runs rest ending) ∨
      ∃ fault, ending = .fault fault ∧
        Transaction.Makes ⟨command.text, .integer⟩ port (portCalls steps) none := by
  exact run.of_settled_bind fun _ _ => read_runs framed

theorem readWaveform_runs (known : channel ∈ channels) {ending : Outcome Waveform}
    (run : (readWaveform port channel).Runs steps ending) :
    (∃ waveform, ending = .result waveform ∧
        ∃ n, waveform = .ofId n ∧ Exchanged port (.read channel .waveform) n (portCalls steps)) ∨
      ∃ fault, ending = .fault fault ∧
        (Command.read channel .waveform).transaction.Makes port (portCalls steps) none := by
  rcases read_bind_runs (Exchange.frame_read known _) run with
    ⟨n, first, rest, rfl, exchanged, ended⟩ | unread
  · obtain ⟨rfl, rfl⟩ := ended.of_result
    rw [List.append_nil]
    exact Or.inl ⟨_, rfl, n, rfl, exchanged⟩
  · exact Or.inr unread

theorem readAttenuation_runs (known : channel ∈ channels) {ending : Outcome Attenuation}
    (run : (readAttenuation port channel).Runs steps ending) :
    (∃ attenuation, ending = .result attenuation ∧
        AttenuationRead port channel attenuation (portCalls steps)) ∨
      ∃ fault, ending = .fault fault ∧ AttenuationUnread port channel (portCalls steps) := by
  rcases read_bind_runs (Exchange.frame_read known _) run with
    ⟨n, first, rest, rfl, exchanged, ended⟩ | ⟨fault, rfl, made⟩
  · cases found : Attenuation.ofId? n with
    | none =>
      rw [found] at ended
      obtain ⟨rfl, rfl⟩ := Program.Runs.of_fail ended
      rw [List.append_nil]
      exact Or.inr ⟨_, rfl, .unknown exchanged found⟩
    | some attenuation =>
      rw [found] at ended
      obtain ⟨rfl, rfl⟩ := Program.Runs.of_result ended
      rw [List.append_nil]
      exact Or.inl ⟨attenuation, rfl, n, exchanged, found⟩
  · exact Or.inr ⟨fault, rfl, .unanswered made⟩

theorem readAttenuation_result (known : channel ∈ channels) {attenuation : Attenuation}
    (run : (readAttenuation port channel).Runs steps (.result attenuation)) :
    AttenuationRead port channel attenuation (portCalls steps) := by
  rcases readAttenuation_runs known run with ⟨_, same, read⟩ | ⟨_, same, _⟩
  · cases same
    exact read
  · cases same

/-- The amplitude that a reply stands for is a number, since a reply is short. -/
theorem readAmplitude_runs (known : channel ∈ channels) {ending : Outcome Binary64}
    (run : (readAmplitude port channel).Runs steps ending) :
    (∃ amplitude, ending = .result amplitude ∧
        AmplitudeRead port channel amplitude (portCalls steps)) ∨
      ∃ fault, ending = .fault fault ∧ AmplitudeUnread port channel (portCalls steps) := by
  unfold readAmplitude at run
  rcases run.of_settled_bind (fun _ _ => readAttenuation_runs known) with
    ⟨attenuation, first, rest, rfl, read, going⟩ | ⟨fault, rfl, unread⟩
  · rcases read_bind_runs (Exchange.frame_read known _) going with
      ⟨raw, second, last, rfl, exchanged, ended⟩ | ⟨fault, rfl, made⟩
    · obtain ⟨amplitude, decoded⟩ := Scaling.decodeAmplitude_ok exchanged.natAbs_lt attenuation
      rw [decoded] at ended
      obtain ⟨rfl, rfl⟩ := Program.Runs.of_result ended
      rw [portCalls_append, List.append_nil]
      exact Or.inl ⟨amplitude, rfl, .scaled read exchanged decoded⟩
    · rw [portCalls_append]
      exact Or.inr ⟨fault, rfl, .unanswered read made⟩
  · exact Or.inr ⟨fault, rfl, .unscaled unread⟩

end Setting

namespace Generator

variable {α : Type} {channel : Int}

theorem onChannel_known (known : channel ∈ channels) (operation : Program α) :
    onChannel channel operation = operation :=
  if_pos (List.contains_iff_mem.mpr known)

theorem onChannel_unknown (unknown : channel ∉ channels) (operation : Program α) :
    onChannel channel operation = .fail (.channelOutOfRange channel) :=
  if_neg fun found => unknown (List.contains_iff_mem.mp found)

/-- An operation for a channel that the generator does not have does nothing. -/
theorem onChannel_runs {operation : Program α} {steps : List Step} {ending : Outcome α}
    (run : (onChannel channel operation).Runs steps ending) :
    (channel ∈ channels ∧ operation.Runs steps ending) ∨
      (channel ∉ channels ∧ steps = [] ∧ ending = .fault (.channelOutOfRange channel)) := by
  by_cases known : channel ∈ channels
  · rw [onChannel_known known] at run
    exact Or.inl ⟨known, run⟩
  · rw [onChannel_unknown known] at run
    exact Or.inr ⟨known, run.of_fail⟩

end Generator

/-- What an operation gives back does not change what it does. -/
theorem Operation.giving_runs {α : Type} {reading : α → Reading} {program : Program α}
    {steps : List Step} {ending : Outcome Reading} (run : (giving reading program).Runs steps ending) :
    (∃ value, program.Runs steps (.result value) ∧ ending = .result (reading value)) ∨
      (∃ fault, program.Runs steps (.fault fault) ∧ ending = .fault fault) ∨
      (program.Runs steps .unfinished ∧ ending = .unfinished) := by
  rcases run.of_bind with ⟨value, first, rest, rfl, begun, ended⟩ | failed | stuck
  · obtain ⟨rfl, rfl⟩ := ended.of_result
    rw [List.append_nil]
    exact Or.inl ⟨value, begun, rfl⟩
  · exact Or.inr (Or.inl failed)
  · exact Or.inr (Or.inr stuck)

end SignalGenerator
