import SignalGenerator.Proofs.Conversation
import SignalGenerator.Proofs.Link
import SignalGenerator.Proofs.ReplyGrammar

/-!
Replies that come late. Main statement: as long as no call of a session was missed, every reply is read for
its own command. After an answer was left behind every reply is read for a later command, and that one takes
it only if it is the same command, or if both are commands that are just acknowledged.
-/

namespace SignalGenerator

namespace Link

variable {answer : Nat → List UInt8} {allowed : Transaction → Prop} {transaction : Transaction}
  {complete : Bool} {link last : Link} {receipts : List Receipt} {missed : Nat}

/-- The line with this number is the one for the command of a transaction. -/
def Holds (link : Link) (transaction : Transaction) (number : Nat) : Prop :=
  ∃ line, Exchange.frame transaction.command = .ok line ∧ link.sent[number]? = some line

/-- Every answer that was not read yet is one to an allowed transaction. -/
def Known (allowed : Transaction → Prop) (link : Link) : Prop :=
  ∀ number ∈ link.queue, ∃ transaction, allowed transaction ∧ link.Holds transaction number

theorem Holds.later {number : Nat} (holds : link.Holds transaction number)
    (begins : link.sent <+: last.sent) : last.Holds transaction number := by
  obtain ⟨line, framed, found⟩ := holds
  obtain ⟨rest, whole⟩ := begins
  obtain ⟨inside, _⟩ := List.getElem?_eq_some_iff.mp found
  exact ⟨line, framed, by rw [← whole, List.getElem?_append_left inside, found]⟩

theorem Round.holds (round : link.Round answer transaction complete receipts missed last) :
    last.Holds transaction link.sent.length := by
  obtain ⟨line, framed, sent⟩ := round.sent
  exact ⟨line, framed, by rw [sent, List.getElem?_concat_length]⟩

/-- What a round may read or leave behind are answers to allowed transactions. -/
theorem Round.pending (round : link.Round answer transaction complete receipts missed last)
    (fits : allowed transaction) (known : link.Known allowed) {number : Nat}
    (member : number ∈ link.queue ++ [link.sent.length]) :
    ∃ answerer, allowed answerer ∧ last.Holds answerer number := by
  rcases List.mem_append.mp member with old | new
  · obtain ⟨answerer, allows, holds⟩ := known number old
    exact ⟨answerer, allows, holds.later round.begins⟩
  · rw [List.mem_singleton.mp new]
    exact ⟨transaction, fits, round.holds⟩

theorem Round.known (round : link.Round answer transaction complete receipts missed last)
    (fits : allowed transaction) (known : link.Known allowed) : last.Known allowed := by
  intro number member
  refine round.pending fits known ?_
  cases round with
  | replied _ oldest _ queue _ => exact oldest ▸ List.mem_cons_of_mem _ (queue ▸ member)
  | silent _ _ queue _ =>
    rcases queue with same | longer
    · exact List.mem_append_left _ (same ▸ member)
    · exact longer ▸ member

/-- A reply that is taken belongs to an allowed transaction, and it is what the last one has to be
answered with. -/
def Taken (answer : Nat → List UInt8) (allowed : Transaction → Prop) (link : Link)
    (receipt : Receipt) : Prop :=
  ∃ asker answerer, allowed asker ∧ allowed answerer ∧ link.Holds asker receipt.asked ∧
    link.Holds answerer receipt.answered ∧ asker.Accepts (answer receipt.answered)

theorem Round.taken (round : link.Round answer transaction true receipts missed last)
    (fits : allowed transaction) (known : link.Known allowed) :
    ∀ receipt ∈ receipts, last.Taken answer allowed receipt := by
  intro receipt member
  have pending : ∀ number ∈ link.queue ++ [link.sent.length], ∃ answerer, allowed answerer ∧
      last.Holds answerer number := fun _ => round.pending fits known
  have asked := round.holds
  cases round with
  | @replied _ number _ _ _ _ _ oldest _ _ accepts =>
    rw [List.mem_singleton] at member
    subst member
    obtain ⟨answerer, allows, answered⟩ := pending number (oldest ▸ List.mem_cons_self)
    exact ⟨transaction, answerer, fits, allows, asked, answered, accepts rfl⟩

namespace Rounds

theorem known (rounds : link.Rounds answer allowed complete receipts missed last)
    (known : link.Known allowed) : last.Known allowed := by
  induction rounds with
  | done => exact known
  | stopped fits round => exact round.known fits known
  | next fits round _ ih => exact ih (round.known fits known)

theorem taken (rounds : link.Rounds answer allowed complete receipts missed last)
    (whole : complete = true) (known : link.Known allowed) :
    ∀ receipt ∈ receipts, last.Taken answer allowed receipt := by
  induction rounds with
  | done => exact nofun
  | stopped => cases whole
  | next fits round onward ih =>
    intro receipt member
    rcases List.mem_append.mp member with now | later
    · obtain ⟨asker, answerer, first, second, asked, answered, accepts⟩ :=
        round.taken fits known receipt now
      exact ⟨asker, answerer, first, second, asked.later onward.begins, answered.later onward.begins,
        accepts⟩
    · exact ih whole (round.known fits known) receipt later

end Rounds

end Link

namespace Transaction

variable {transaction : Transaction} {reply : String}

theorem Takes.short (takes : transaction.Takes reply)
    (orders : transaction.expects = .acknowledgement) : reply.toList.length ≤ Reply.tagLength := by
  have acknowledged : Reply.acknowledge transaction.command reply = .ok () := by
    unfold Takes at takes
    rwa [orders] at takes
  unfold Reply.acknowledge at acknowledged
  split at acknowledged
  · rename_i word
    exact (Reply.length_of_isAcknowledgement word).trans (by decide)
  · cases acknowledged

theorem Takes.echoed (takes : transaction.Takes reply)
    (asks : transaction.expects ≠ .acknowledgement) :
    Reply.tagLength < reply.toList.length ∧
      (Reply.tag transaction.command).toList <+: reply.toList := by
  have passed : Reply.checkData transaction.command reply = .ok reply := by
    unfold Takes at takes
    split at takes
    · contradiction
    · exact takes
    · exact takes.1
  rcases Reply.checkData_cases transaction.command reply with ⟨_, refused⟩ | ⟨_, fault, refused, _⟩ |
    ⟨long, _, begins, _⟩
  · rw [refused] at passed
    cases passed
  · rw [refused] at passed
    cases passed
  · exact ⟨long, begins⟩

end Transaction

/-- A command that asks for a value is as long as what is repeated of it. -/
theorem Command.Addressed.text_length {command : Command} (addressed : command.Addressed)
    (asks : command.expects ≠ .acknowledgement) :
    command.text.toList.length = Reply.tagLength := by
  cases command with
  | read => exact (asks_read addressed _).tag
  | readModel | readOutput | readCounter => decide
  | set | setOutput | selectFunction | setGateTime | enableCounter => exact absurd rfl asks

namespace Transaction

/-- The transaction of a command that a session may send. -/
def Addressed (transaction : Transaction) : Prop :=
  ∃ command : Command, transaction = command.transaction ∧ command.Addressed

variable {transaction asker answerer : Transaction} {reply : String} {line : List UInt8}

theorem Addressed.text_length (addressed : transaction.Addressed)
    (asks : transaction.expects ≠ .acknowledgement) :
    transaction.command.toList.length = Reply.tagLength := by
  obtain ⟨command, rfl, known⟩ := addressed
  exact known.text_length asks

/-- A reply with a value repeats the whole command. -/
theorem Addressed.echoed (addressed : transaction.Addressed)
    (asks : transaction.expects ≠ .acknowledgement) (takes : transaction.Takes reply) :
    transaction.command.toList <+: reply.toList := by
  have begins := (takes.echoed asks).2
  rwa [Reply.tag, String.toList_ofList, ← addressed.text_length asks, List.take_length] at begins

/-- One line answers two commands only if they are the same, or if both are just acknowledged. -/
theorem Accepts.alike (first : asker.Addressed) (second : answerer.Addressed)
    (taken : asker.Accepts line) (own : answerer.Accepts line) :
    asker.command = answerer.command ∨
      asker.expects = .acknowledgement ∧ answerer.expects = .acknowledgement := by
  obtain ⟨_, reply, read, takes⟩ := taken
  obtain ⟨_, again, reread, gives⟩ := own
  cases Except.ok.inj (read.symm.trans reread)
  by_cases orders : asker.expects = .acknowledgement <;>
    by_cases ordered : answerer.expects = .acknowledgement
  · exact Or.inr ⟨orders, ordered⟩
  · exact absurd (gives.echoed ordered).1 (Nat.not_lt.mpr (takes.short orders))
  · exact absurd (takes.echoed orders).1 (Nat.not_lt.mpr (gives.short ordered))
  · have lengths := (first.text_length orders).trans (second.text_length ordered).symm
    have nested := List.prefix_of_prefix_length_le (first.echoed orders takes)
      (second.echoed ordered gives) lengths.le
    exact Or.inl (String.toList_inj.mp (nested.eq_of_length lengths))

end Transaction

/-- A session's acts send one addressed command at a time. -/
theorem Act.Runs.inTurn {generator : Generator} {act : Act} {steps : List Step}
    (run : Act.Runs generator act steps) :
    ∃ complete, InTurn generator.port Transaction.Addressed (portCalls steps) complete := by
  have taken {α : Type} {program : Program α} {ending : Outcome α}
      (turns : program.TakesTurns generator.port Transaction.Addressed)
      (run : program.Runs steps ending) :
      ∃ complete, InTurn generator.port Transaction.Addressed (portCalls steps) complete := by
    obtain ⟨complete, made, _⟩ := turns _ _ run
    exact ⟨complete, made⟩
  cases run with
  | operate run => exact taken (Operation.perform_addressed generator _) run
  | start own run =>
    subst own
    exact taken (Sampler.start_turns ⟨_, rfl, trivial⟩ ⟨_, rfl, trivial⟩) run
  | poll own run =>
    subst own
    exact taken (Sampler.poll_turns _ (fun _ => ⟨_, rfl, trivial⟩) ⟨_, rfl, trivial⟩) run
  | stop own run =>
    subst own
    exact taken (Sampler.stop_turns ⟨_, rfl, trivial⟩) run

namespace Link

/-- A link that nothing was written to. -/
def unused : Link := ⟨[], [], nofun⟩

/-- A device that answers the commands of a session as the protocol has it. -/
def Conforms (answer : Nat → List UInt8) (link : Link) : Prop :=
  ∀ transaction number, transaction.Addressed → link.Holds transaction number →
    transaction.Accepts (answer number)

/-- The line with this number is one for a command that is just acknowledged. -/
def Orders (link : Link) (number : Nat) : Prop :=
  ∃ command : Command, command.Addressed ∧ command.expects = .acknowledgement ∧
    link.Holds command.transaction number

/-- The line with this number is one for a command that asks for a value. -/
def Asks (link : Link) (number : Nat) : Prop :=
  ∃ command : Command, command.Addressed ∧ command.expects ≠ .acknowledgement ∧
    link.Holds command.transaction number

/-- Two lines that are the same, or that are both of commands which are just acknowledged. -/
def Alike (link : Link) (first second : Nat) : Prop :=
  (∃ line, link.sent[first]? = some line ∧ link.sent[second]? = some line) ∨
    link.Orders first ∧ link.Orders second

section
variable {link : Link} {first second number : Nat}

/-- A line is not both, since the lines of these commands do not begin alike. -/
theorem Asks.not_orders (asks : link.Asks number) : ¬ link.Orders number := by
  rintro ⟨order, _, acknowledged, _, reframed, refound⟩
  obtain ⟨question, _, value, _, framed, found⟩ := asks
  cases found.symm.trans refound
  obtain ⟨_, begins⟩ := question.text_begins
  obtain ⟨_, rebegins⟩ := order.text_begins
  rw [acknowledged] at rebegins
  have texts : question.text = order.text := Exchange.frame_inj framed reframed
  rw [texts, rebegins] at begins
  cases expects : question.expects with
  | acknowledgement => exact value expects
  | data | integer =>
    rw [expects] at begins
    cases begins

/-- What asks for a value is alike to the very same line alone. -/
theorem Alike.same_of_asks (alike : link.Alike first second) (asks : link.Asks first ∨ link.Asks second) :
    link.sent[first]? = link.sent[second]? := by
  rcases alike with ⟨line, found, refound⟩ | ⟨orders, ordered⟩
  · exact found.trans refound.symm
  · rcases asks with asks | asks
    · exact absurd orders asks.not_orders
    · exact absurd ordered asks.not_orders

end

theorem Taken.alike {answer : Nat → List UInt8} {link : Link} {receipt : Receipt}
    (taken : link.Taken answer Transaction.Addressed receipt) (conforms : link.Conforms answer) :
    link.Alike receipt.asked receipt.answered := by
  obtain ⟨asker, answerer, first, second, asked, answered, accepts⟩ := taken
  have own := conforms answerer receipt.answered second answered
  rcases accepts.alike first second own with same | ⟨orders, ordered⟩
  · obtain ⟨line, framed, found⟩ := asked
    obtain ⟨other, reframed, refound⟩ := answered
    rw [same, reframed] at framed
    cases framed
    exact Or.inl ⟨_, found, refound⟩
  · obtain ⟨command, rfl, addressed⟩ := first
    obtain ⟨other, rfl, readdressed⟩ := second
    exact Or.inr ⟨⟨command, addressed, orders, asked⟩, other, readdressed, ordered, answered⟩

end Link

namespace Session

variable {answer : Nat → List UInt8} {port : Port} {identity : Identity}
  {history : List (Act × List PortCall)} {earlier receipts : List Receipt} {link last : Link}

/-- No more answers are left behind than calls were missed, and all of them are answers to commands. -/
theorem left_behind (session : Session port identity history)
    (before : Link.unused.Carries answer (history.flatMap Prod.snd) earlier link) :
    link.queue.length ≤ (history.flatMap Prod.snd).countP PortCall.missed ∧
      link.Known Transaction.Addressed := by
  induction session generalizing earlier link with
  | identified run =>
    rw [List.flatMap_singleton] at before ⊢
    have talks : (Identity.identify port).TakesTurns port Transaction.Addressed :=
      Identity.identify_turns ⟨_, rfl, trivial⟩
    obtain ⟨_, turns, _⟩ := talks _ _ run
    have rounds := turns.rounds before
    refine ⟨?_, rounds.known (nofun : ∀ number ∈ [], _)⟩
    simpa [Link.unused] using rounds.length_bounds.2
  | acted session run ih =>
    rw [List.flatMap_append, List.flatMap_singleton] at before ⊢
    obtain ⟨middle, _, _, _, begun, carried⟩ := before.split
    obtain ⟨behind, known⟩ := ih begun
    obtain ⟨_, turns⟩ := run.inTurn
    have rounds := turns.rounds carried
    refine ⟨?_, rounds.known known⟩
    rw [List.countP_append]
    exact rounds.length_bounds.2.trans (Nat.add_le_add_right behind _)

end Session

/-- A generator that names its model and acknowledges whatever comes next. -/
def courteous : Nat → List UInt8
  | 0 => asciiBytes ":r0c5225A000\n".toList
  | _ + 1 => asciiBytes "ok\n".toList

namespace Session

/-- The output is switched on, but that is acknowledged too late, and the next setting takes the
acknowledgement. -/
theorem overdue_acknowledgement :
    let port : Port := ⟨0, "bench"⟩
    let identity : Identity := ⟨"MHS-25A00", .integer 25000000⟩
    ∃ history earlier link steps last, Session port identity history ∧
      Link.unused.Carries courteous (history.flatMap Prod.snd) earlier link ∧
      ((Operation.setWaveform 1 .sine).perform ⟨port, identity⟩).Runs steps (.result .done) ∧
      link.Carries courteous (portCalls steps) [⟨2, 1⟩] last ∧
      last.sent = [":r0c\n", ":s1b1\n", ":s1w0\n"].map fun text => asciiBytes text.toList := by
  intro port identity
  let asking := Bench.answering [":r0c5225A000\n"]
  let silent := Bench.answering []
  let late := Bench.answering ["ok\n"]
  let switching := (Operation.setOutput true).perform ⟨port, identity⟩
  let setting := (Operation.setWaveform 1 .sine).perform ⟨port, identity⟩
  have named : ((Identity.identify port).runOn asking).1 = .result identity := by decide
  have done : (setting.runOn late).1 = .result .done := by decide
  have identified := (Identity.identify port).runs_runOn asking
  rw [named] at identified
  have set := setting.runs_runOn late
  rw [done] at set
  have session := Session.acted (.identified identified) (.operate (switching.runs_runOn silent))
  have before : ([(Act.identify, portCalls ((Identity.identify port).stepsOn asking))] ++
      [(Act.operate (.setOutput true), portCalls (switching.stepsOn silent))]).flatMap Prod.snd =
      [.wrote port (asciiBytes ":r0c\n".toList) (.ok 5), .read port (.ok (courteous 0)),
        .wrote port (asciiBytes ":s1b1\n".toList) (.ok 6), .read port (.ok [])] := by
    decide +kernel
  have now : portCalls (setting.stepsOn late) =
      [.wrote port (asciiBytes ":s1w0\n".toList) (.ok 6), .read port (.ok (courteous 1))] := by
    decide
  let link := (Link.unused.reach (asciiBytes ":r0c\n".toList)).hear.reach
    (asciiBytes ":s1b1\n".toList)
  let last := (link.reach (asciiBytes ":s1w0\n".toList)).hear
  refine ⟨_, [⟨0, 0⟩], link, _, last, session, ?_, set, ?_, rfl⟩
  · rw [before]
    exact .reached (.arrived rfl (.reached (.late rfl .done)))
  · rw [now]
    exact .reached (.arrived rfl .done)

end Session

namespace Session

theorem courteous_conforms {last : Link}
    (sent : last.sent = [":r0c\n", ":s1b1\n", ":s1w0\n"].map fun text => asciiBytes text.toList) :
    last.Conforms courteous := by
  rintro transaction number ⟨command, rfl, addressed⟩ ⟨line, framed, found⟩
  rw [sent] at found
  -- A line of six bytes is longer than one that asks for a value.
  have orders : line.length = 6 → command.transaction.Accepts (asciiBytes "ok\n".toList) := by
    intro six
    have acknowledged : command.expects = .acknowledgement := by
      by_contra asks
      obtain ⟨_, rfl⟩ := Exchange.of_frame framed
      have four := addressed.text_length asks
      rw [List.length_append, List.length_map, Command.transaction, four] at six
      exact absurd six (by decide)
    rw [Command.transaction, acknowledged]
    exact ⟨by decide, "ok", by decide, rfl⟩
  rcases number with _ | _ | _ | number
  · cases found
    have named := Exchange.frame_inj framed (by decide : Exchange.frame ":r0c" = .ok _)
    cases Command.eq_of_text (Or.inl rfl) named
    exact ⟨by decide, ":r0c5225A000", by decide, (by decide :
      Reply.checkData ":r0c" ":r0c5225A000" = .ok ":r0c5225A000")⟩
  · cases found
    exact orders (by decide)
  · cases found
    exact orders (by decide)
  · cases found

/-- The replies that an operation reads are those to its own commands exactly when no answer was left
behind before it. No more answers are left behind than calls were missed, but none is ever made up for. When
the operation ends with a result, and the device keeps to the protocol, each reply is one to the very same
line, or to another command that is just acknowledged like the one it was read for. So what is read for a
value is the answer to the very same line, and no other line takes the answer to one that asks for a value. -/
theorem reply_own_or_alike {operation : Operation} {steps : List Step} {ending : Outcome Reading}
    (session : Session port identity history)
    (before : Link.unused.Carries answer (history.flatMap Prod.snd) earlier link)
    (run : (operation.perform ⟨port, identity⟩).Runs steps ending)
    (carried : link.Carries answer (portCalls steps) receipts last) :
    (∀ receipt ∈ receipts, receipt.answered ≤ receipt.asked ∧
        (receipt.answered = receipt.asked ↔ link.queue = [])) ∧
      link.queue.length ≤ (history.flatMap Prod.snd).countP PortCall.missed ∧
      link.queue.length ≤ last.queue.length ∧
      (last.Conforms answer → ∀ reading, ending = .result reading →
        ∀ receipt ∈ receipts, last.Alike receipt.asked receipt.answered ∧
          (last.Asks receipt.asked ∨ last.Asks receipt.answered →
            last.sent[receipt.asked]? = last.sent[receipt.answered]?)) := by
  obtain ⟨behind, known⟩ := session.left_behind before
  obtain ⟨complete, turns, failing⟩ := operation.perform_addressed _ _ _ run
  have rounds := turns.rounds carried
  refine ⟨rounds.receipt, behind, rounds.length_bounds.1, ?_⟩
  rintro conforms reading rfl receipt member
  have whole : complete = true := by
    by_contra incomplete
    obtain ⟨fault, impossible⟩ := failing (Bool.eq_false_iff.mpr incomplete)
    cases impossible
  have alike := (rounds.taken whole known receipt member).alike conforms
  exact ⟨alike, alike.same_of_asks⟩

/-- The setting is answered with the acknowledgement of the output. It would not take the answer with the
model, nor would a reading of the frequency take the answer with the amplitude. -/
theorem reply_own_or_alike_overdue :
    let port : Port := ⟨0, "bench"⟩
    let identity : Identity := ⟨"MHS-25A00", .integer 25000000⟩
    let readings : Link := ⟨[asciiBytes ":r1f\n".toList, asciiBytes ":r1a\n".toList], [], nofun⟩
    ∃ history earlier link steps last, Session port identity history ∧
      Link.unused.Carries courteous (history.flatMap Prod.snd) earlier link ∧
      ((Operation.setWaveform 1 .sine).perform ⟨port, identity⟩).Runs steps (.result .done) ∧
      link.Carries courteous (portCalls steps) [⟨2, 1⟩] last ∧
      link.queue ≠ [] ∧ link.queue.length ≤ (history.flatMap Prod.snd).countP PortCall.missed ∧
      last.Alike 2 1 ∧ ¬ last.Alike 2 0 ∧ ¬ readings.Alike 0 1 := by
  intro port identity readings
  obtain ⟨history, earlier, link, steps, last, session, before, run, carried, sent⟩ :=
    overdue_acknowledgement
  obtain ⟨receipts, behind, _, alike⟩ := reply_own_or_alike session before run carried
  refine ⟨history, earlier, link, steps, last, session, before, run, carried, ?_, behind, ?_, ?_, ?_⟩
  · intro empty
    exact absurd ((receipts _ (List.mem_singleton_self _)).2.mpr empty) (by decide)
  · exact (alike (courteous_conforms sent) _ rfl _ (List.mem_singleton_self _)).1
  · intro taken
    have model : last.Asks 0 :=
      ⟨.readModel, trivial, nofun, asciiBytes ":r0c\n".toList, rfl, sent ▸ rfl⟩
    have same := taken.same_of_asks (Or.inr model)
    rw [sent] at same
    exact absurd same (by decide)
  · intro taken
    have frequency : readings.Asks 0 :=
      ⟨.read 1 .frequency, (by decide : (1 : Int) ∈ channels), nofun, asciiBytes ":r1f\n".toList, rfl, rfl⟩
    exact absurd (taken.same_of_asks (Or.inl frequency)) (by decide)

/-- It is not so that the replies to an operation which ends with a result are always those to its own
commands. -/
theorem reply_of_earlier_command :
    ¬ ∀ (answer : Nat → List UInt8) (port : Port) (identity : Identity)
        (history : List (Act × List PortCall)) (earlier : List Receipt) (link : Link)
        (operation : Operation) (steps : List Step) (reading : Reading) (receipts : List Receipt)
        (last : Link), Session port identity history →
      Link.unused.Carries answer (history.flatMap Prod.snd) earlier link →
      (operation.perform ⟨port, identity⟩).Runs steps (.result reading) →
      link.Carries answer (portCalls steps) receipts last →
      ∀ receipt ∈ receipts, receipt.answered = receipt.asked := by
  intro own
  obtain ⟨_, _, _, _, _, session, before, run, carried, _⟩ := overdue_acknowledgement
  have same := own _ _ _ _ _ _ _ _ _ _ _ session before run carried _ (List.mem_singleton_self _)
  exact absurd same (by decide)

end Session

end SignalGenerator
