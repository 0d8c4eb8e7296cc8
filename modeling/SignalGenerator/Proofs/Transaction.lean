import SignalGenerator.Line.Exchange
import SignalGenerator.Proofs.Execution

/-!
One transaction on a port: a command is written and the line that comes back is taken for the answer
or not. Every exchange of the generator makes the calls of one transaction, and ends with a result only
when its line was taken.
-/

namespace SignalGenerator

/-- What a command has to be answered with. -/
inductive Expectation
  | acknowledgement
  | data
  | integer

structure Transaction where
  command : String
  expects : Expectation

namespace Transaction

/-- A reply that is what the command has to be answered with. -/
def Takes (transaction : Transaction) (reply : String) : Prop :=
  match transaction.expects with
  | .acknowledgement => Reply.acknowledge transaction.command reply = .ok ()
  | .data => Reply.checkData transaction.command reply = .ok reply
  | .integer => Reply.checkData transaction.command reply = .ok reply ∧
      ∃ n, Reply.integer transaction.command reply = .ok n

/-- A line that is taken for the answer: it is not empty, it is ASCII, and what is left without its
line ends is taken. -/
def Accepts (transaction : Transaction) (line : List UInt8) : Prop :=
  line ≠ [] ∧ ∃ reply, Reply.ofLine line = .ok reply ∧ transaction.Takes reply

/-- The calls that a transaction makes on a port, with the line it accepted. There is none when the
command was not written in full or the line was refused. -/
inductive Makes (transaction : Transaction) (port : Port) :
    List PortCall → Option (List UInt8) → Prop
  | unwritten {line answer} : Exchange.frame transaction.command = .ok line →
      answer ≠ .ok (line.length : Int) →
      Makes transaction port [.wrote port line answer] none
  | refused {line answer} : Exchange.frame transaction.command = .ok line →
      (∀ reply, answer = .ok reply → ¬ transaction.Accepts reply) →
      Makes transaction port [.wrote port line (.ok line.length), .read port answer] none
  | answered {line reply} : Exchange.frame transaction.command = .ok line →
      transaction.Accepts reply →
      Makes transaction port [.wrote port line (.ok line.length), .read port (.ok reply)]
        (some reply)

/-- How a transaction can go and end. A command that cannot be encoded makes no calls, and a result
is one that the accepted line `gives`. -/
inductive Ends {α : Type} (transaction : Transaction) (port : Port)
    (gives : List UInt8 → α → Prop) : List PortCall → Outcome α → Prop
  | unencodable {fault} : Exchange.frame transaction.command = .error fault →
      Ends transaction port gives [] (.fault fault)
  | failed {calls fault} : transaction.Makes port calls none →
      Ends transaction port gives calls (.fault fault)
  | answered {calls reply value} : transaction.Makes port calls (some reply) → gives reply value →
      Ends transaction port gives calls (.result value)

theorem Ends.mono {α : Type} {transaction : Transaction} {port : Port}
    {gives wider : List UInt8 → α → Prop} {calls : List PortCall} {ending : Outcome α}
    (ends : transaction.Ends port gives calls ending)
    (implies : ∀ line value, gives line value → wider line value) :
    transaction.Ends port wider calls ending := by
  cases ends with
  | unencodable unframed => exact .unencodable unframed
  | failed made => exact .failed made
  | answered made given => exact .answered made (implies _ _ given)

/-- The line that a transaction writes is the one of its command, and it comes first. -/
theorem Makes.written {transaction : Transaction} {port target : Port}
    {calls before after : List PortCall} {accepted : Option (List UInt8)} {line : List UInt8}
    {answer : Except Fault Int} (made : transaction.Makes port calls accepted)
    (split : calls = before ++ .wrote target line answer :: after) :
    before = [] ∧ target = port ∧ Exchange.frame transaction.command = .ok line := by
  have alone : ∀ sent given, calls = [.wrote port sent given] ∨
      (∃ reply, calls = [.wrote port sent given, .read port reply]) →
      before = [] ∧ target = port ∧ line = sent := by
    rintro sent given (rfl | ⟨reply, rfl⟩)
    · cases before <;> simp_all
    · rcases before with _ | ⟨_, _ | ⟨_, before⟩⟩ <;> simp_all
  cases made with
  | @unwritten sent given framed =>
    obtain ⟨first, same, rfl⟩ := alone sent given (Or.inl rfl)
    exact ⟨first, same, framed⟩
  | @refused sent reply framed =>
    obtain ⟨first, same, rfl⟩ := alone sent _ (Or.inr ⟨_, rfl⟩)
    exact ⟨first, same, framed⟩
  | @answered sent reply framed =>
    obtain ⟨first, same, rfl⟩ := alone sent _ (Or.inr ⟨_, rfl⟩)
    exact ⟨first, same, framed⟩

theorem Ends.written {transaction : Transaction} {port target : Port} {α : Type}
    {gives : List UInt8 → α → Prop} {calls before after : List PortCall} {ending : Outcome α}
    {line : List UInt8} {answer : Except Fault Int} (ends : transaction.Ends port gives calls ending)
    (split : calls = before ++ .wrote target line answer :: after) :
    before = [] ∧ target = port ∧ Exchange.frame transaction.command = .ok line := by
  cases ends with
  | unencodable => simp at split
  | failed made => exact made.written split
  | answered made _ => exact made.written split

end Transaction

/-- The integer that a line answers a command with. -/
def Reply.Answers (command : String) (line : List UInt8) (n : Int) : Prop :=
  ∃ reply, Reply.ofLine line = .ok reply ∧ Reply.checkData command reply = .ok reply ∧
    Reply.integer command reply = .ok n

theorem Reply.checkData_eq {command reply checked : String}
    (passed : Reply.checkData command reply = .ok checked) : checked = reply := by
  unfold Reply.checkData at passed
  dsimp only at passed
  split at passed
  · cases passed
  split at passed
  · cases passed
  split at passed
  · cases passed
  · exact (Except.ok.inj passed).symm

theorem Reply.of_checked_integer {command reply : String} {n : Int}
    (judged : (Reply.checkData command reply).bind (Reply.integer command) = .ok n) :
    Reply.checkData command reply = .ok reply ∧ Reply.integer command reply = .ok n := by
  cases passed : Reply.checkData command reply with
  | error fault =>
    rw [passed] at judged
    cases judged
  | ok checked =>
    have same := Reply.checkData_eq passed
    subst same
    rw [passed] at judged
    exact ⟨rfl, judged⟩

namespace Exchange

theorem explain_ok {α : Type} (cause : String → Fault) (value : α) :
    explain cause (.ok value) = .ok value := rfl

theorem send_eq {port : Port} {command : String} {line : List UInt8}
    (framed : frame command = .ok line) :
    send port command =
      .ask (.log .debug s!"Serial command on {port.name}: {Quoted.bytes line}") fun _ =>
      .ask (.write port timeout line) fun answer =>
        (Program.ofExcept (explain (.sendFailed command) answer)).bind fun written =>
          if written ≠ line.length then .fail (.shortWrite command written line.length)
          else .result () := by
  unfold send
  rw [framed]
  refine congrArg (Program.ask _) (funext fun _ => congrArg (Program.ask _) (funext fun answer => ?_))
  cases answer <;> rfl

theorem receive_eq (port : Port) (wait : Number) :
    receive port wait =
      .ask (.readLine port wait) fun answer =>
        match answer with
        | .ok line =>
          .ask (.log .debug s!"Serial response on {port.name}: {Quoted.bytes line}") fun _ =>
            if line.isEmpty then
              (Program.ofArithmetic (millisecondsText wait)).bind fun milliseconds =>
                .fail (.noReply milliseconds)
            else Program.ofExcept (Reply.ofLine line)
        | .error fault => Program.ofExcept (explain .readFailed (.error fault)) := by
  refine congrArg (Program.ask _) (funext fun answer => ?_)
  cases answer with
  | error fault => rfl
  | ok line =>
    refine congrArg (Program.ask _) (funext fun _ => ?_)
    cases line with
    | nil => rfl
    | cons byte rest => rfl

/-- How the writing of a command can go and end. -/
inductive Sent (port : Port) (command : String) : List PortCall → Outcome Unit → Prop
  | unencodable {fault} : frame command = .error fault → Sent port command [] (.fault fault)
  | short {line answer fault} : frame command = .ok line → answer ≠ .ok (line.length : Int) →
      Sent port command [.wrote port line answer] (.fault fault)
  | whole {line} : frame command = .ok line →
      Sent port command [.wrote port line (.ok line.length)] (.result ())

/-- How the reading of a reply can go and end. -/
inductive Received (port : Port) : List PortCall → Outcome String → Prop
  | refused {answer fault} :
      (∀ line reply, answer = .ok line → line ≠ [] → Reply.ofLine line ≠ .ok reply) →
      Received port [.read port answer] (.fault fault)
  | reply {line reply} : line ≠ [] → Reply.ofLine line = .ok reply →
      Received port [.read port (.ok line)] (.result reply)

theorem Sent.finished {port : Port} {command : String} {calls : List PortCall} :
    ¬ Sent port command calls .unfinished := nofun

theorem Received.finished {port : Port} {calls : List PortCall} :
    ¬ Received port calls .unfinished := nofun

theorem send_runs {port : Port} {command : String} {steps : List Step} {ending : Outcome Unit}
    (run : (send port command).Runs steps ending) : Sent port command (portCalls steps) ending := by
  cases framed : frame command with
  | error fault =>
    simp only [send, framed] at run
    obtain ⟨rfl, rfl⟩ := Program.Runs.of_fail run
    exact .unencodable framed
  | ok line =>
    rw [send_eq framed] at run
    obtain ⟨_, _, rfl, logged⟩ := run.of_ask
    obtain ⟨answer, rest, rfl, wrote⟩ := logged.of_ask
    cases answer with
    | error fault =>
      obtain ⟨rfl, rfl⟩ := Program.Runs.of_fail wrote
      exact .short framed nofun
    | ok written =>
      simp only [explain_ok, Program.ofExcept_ok, Program.result_bind] at wrote
      by_cases whole : written = (line.length : Int)
      · rw [if_neg (not_not_intro whole)] at wrote
        obtain ⟨rfl, rfl⟩ := wrote.of_result
        subst whole
        exact .whole framed
      · rw [if_pos whole] at wrote
        obtain ⟨rfl, rfl⟩ := wrote.of_fail
        exact .short framed fun same => whole (Except.ok.inj same)

theorem receive_runs {port : Port} {wait : Number} {steps : List Step} {ending : Outcome String}
    (run : (receive port wait).Runs steps ending) : Received port (portCalls steps) ending := by
  rw [receive_eq] at run
  obtain ⟨answer, rest, rfl, arrived⟩ := run.of_ask
  cases answer with
  | error fault =>
    obtain ⟨rfl, rfl⟩ := Program.Runs.of_fail arrived
    exact .refused nofun
  | ok line =>
    obtain ⟨_, last, rfl, judged⟩ := arrived.of_ask
    cases line with
    | nil =>
      have ended : last = [] ∧ ∃ fault, ending = .fault fault := by
        cases given : millisecondsText wait <;> rw [given] at judged <;>
          exact ⟨(Program.Runs.of_fail judged).1, _, (Program.Runs.of_fail judged).2⟩
      obtain ⟨rfl, fault, rfl⟩ := ended
      refine .refused ?_
      intro line reply given nonempty
      exact absurd (Except.ok.inj given).symm nonempty
    | cons byte bytes =>
      simp only [List.isEmpty_cons, Bool.false_eq_true, if_false] at judged
      cases decoded : Reply.ofLine (byte :: bytes) with
      | error fault =>
        rw [decoded] at judged
        obtain ⟨rfl, rfl⟩ := Program.Runs.of_fail judged
        refine .refused ?_
        intro line reply given _
        cases given
        rw [decoded]
        exact nofun
      | ok reply =>
        rw [decoded] at judged
        obtain ⟨rfl, rfl⟩ := Program.Runs.of_result judged
        exact .reply (List.cons_ne_nil _ _) decoded

/-- An exchange that sends a command and judges the reply goes like one transaction, when it judges as
the transaction does. -/
theorem transaction_runs {α : Type} (transaction : Transaction) {judge : String → Except Fault α}
    (agrees : ∀ reply, transaction.Takes reply ↔ ∃ value, judge reply = .ok value)
    {port : Port} {steps : List Step} {ending : Outcome α}
    (run : ((send port transaction.command).bind fun _ => (receive port timeout).bind fun reply =>
      Program.ofExcept (judge reply)).Runs steps ending) :
    transaction.Ends port
      (fun line value => ∃ reply, Reply.ofLine line = .ok reply ∧ judge reply = .ok value)
      (portCalls steps) ending := by
  rcases run.of_bind with ⟨_, first, rest, rfl, sent, received⟩ | ⟨fault, failed, rfl⟩ | ⟨stuck, _⟩
  · have written := send_runs sent
    rcases received.of_bind with ⟨reply, second, last, rfl, arrived, judged⟩ |
      ⟨fault, failed, rfl⟩ | ⟨stuck, _⟩
    · have answered := receive_runs arrived
      rw [portCalls_append, portCalls_append]
      generalize portCalls first = calls at written ⊢
      generalize portCalls second = called at answered ⊢
      cases written with | whole framed
      cases answered with | @reply bytes _ nonempty decoded
      cases judgement : judge reply with
      | error fault =>
        rw [judgement] at judged
        obtain ⟨rfl, rfl⟩ := Program.Runs.of_fail judged
        refine .failed (.refused framed ?_)
        rintro _ ⟨⟩ accepted
        obtain ⟨_, other, again, taken⟩ := accepted
        have same : reply = other := Except.ok.inj (decoded.symm.trans again)
        subst same
        obtain ⟨value, passed⟩ := (agrees reply).mp taken
        exact nomatch judgement.symm.trans passed
      | ok value =>
        rw [judgement] at judged
        obtain ⟨rfl, rfl⟩ := Program.Runs.of_result judged
        have taken := (agrees reply).mpr ⟨value, judgement⟩
        exact .answered (.answered framed ⟨nonempty, reply, decoded, taken⟩) ⟨reply, decoded, judgement⟩
    · have answered := receive_runs failed
      rw [portCalls_append]
      generalize portCalls first = calls at written ⊢
      generalize portCalls rest = called at answered ⊢
      cases written with | whole framed
      cases answered with | refused refused
      refine .failed (.refused framed ?_)
      rintro bytes given ⟨nonempty, text, decoded, _⟩
      exact refused bytes text given nonempty decoded
    · exact absurd (receive_runs stuck) Received.finished
  · have written := send_runs failed
    generalize portCalls steps = calls at written ⊢
    cases written with
    | unencodable unframed => exact .unencodable unframed
    | short framed short => exact .failed (.unwritten framed short)
  · exact absurd (send_runs stuck) Sent.finished

theorem ofExcept_bind {α β : Type} (value : Except Fault α) (next : α → Except Fault β) :
    (Program.ofExcept value).bind (fun given => Program.ofExcept (next given)) =
      Program.ofExcept (value.bind next) := by
  cases value <;> rfl

theorem order_runs {port : Port} {command : String} {steps : List Step} {ending : Outcome Unit}
    (run : (order port command).Runs steps ending) :
    Transaction.Ends ⟨command, .acknowledgement⟩ port (fun _ _ => True) (portCalls steps) ending := by
  refine (transaction_runs ⟨command, .acknowledgement⟩ ?_ run).mono fun _ _ _ => trivial
  intro reply
  exact ⟨fun taken => ⟨(), taken⟩, fun ⟨_, passed⟩ => passed⟩

theorem query_runs {port : Port} {command : String} {steps : List Step} {ending : Outcome String}
    (run : (query port command).Runs steps ending) :
    Transaction.Ends ⟨command, .data⟩ port
      (fun line reply => Reply.ofLine line = .ok reply ∧ Reply.checkData command reply = .ok reply)
      (portCalls steps) ending := by
  refine (transaction_runs ⟨command, .data⟩ ?_ run).mono ?_
  · intro reply
    refine ⟨fun taken => ⟨reply, taken⟩, ?_⟩
    rintro ⟨text, passed⟩
    exact Reply.checkData_eq passed ▸ passed
  · rintro line reply ⟨text, decoded, passed⟩
    have same := Reply.checkData_eq passed
    subst same
    exact ⟨decoded, passed⟩

theorem queryInteger_eq (port : Port) (command : String) :
    queryInteger port command =
      (send port command).bind fun _ => (receive port timeout).bind fun reply =>
        Program.ofExcept ((Reply.checkData command reply).bind (Reply.integer command)) := by
  simp only [queryInteger, query, Program.bind_eq, Program.bind_assoc, ofExcept_bind]

theorem queryInteger_runs {port : Port} {command : String} {steps : List Step} {ending : Outcome Int}
    (run : (queryInteger port command).Runs steps ending) :
    Transaction.Ends ⟨command, .integer⟩ port (Reply.Answers command) (portCalls steps) ending := by
  rw [queryInteger_eq] at run
  refine (transaction_runs ⟨command, .integer⟩ ?_ run).mono ?_
  · intro reply
    constructor
    · rintro ⟨passed, n, denoted⟩
      exact ⟨n, by rw [passed]; exact denoted⟩
    · rintro ⟨n, judged⟩
      obtain ⟨passed, denoted⟩ := Reply.of_checked_integer judged
      exact ⟨passed, n, denoted⟩
  · rintro line n ⟨reply, decoded, judged⟩
    obtain ⟨passed, denoted⟩ := Reply.of_checked_integer judged
    exact ⟨reply, decoded, passed, denoted⟩

end Exchange

end SignalGenerator
