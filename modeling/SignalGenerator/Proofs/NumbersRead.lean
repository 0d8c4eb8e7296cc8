import SignalGenerator.Proofs.Course
import SignalGenerator.Proofs.Ticks

/-!
How many numbers were read from the counter, as the calls on the ports show it. A poll that measures everything
reads one for each function, a poll that fails reads fewer, and whatever an acquisition does besides polling
reads none.
-/

namespace SignalGenerator

/-- The integer in a line that answers a command. -/
def Reply.judge (command : String) (line : List UInt8) : Except Fault Int :=
  (Reply.ofLine line).bind fun reply => (Reply.checkData command reply).bind (Reply.integer command)

theorem Reply.judge_iff {command : String} {line : List UInt8} {n : Int} :
    judge command line = .ok n ↔ Answers command line n := by
  constructor
  · intro judged
    cases decoded : ofLine line with
    | error fault =>
      rw [judge, decoded] at judged
      cases judged
    | ok reply =>
      rw [judge, decoded] at judged
      obtain ⟨passed, denoted⟩ := of_checked_integer judged
      exact ⟨reply, decoded, passed, denoted⟩
  · rintro ⟨reply, decoded, passed, denoted⟩
    rw [judge, decoded, Except.bind, passed]
    exact denoted

namespace PortCall

/-- The number of the counter is asked for. -/
def asksNumber : PortCall → Bool
  | .wrote _ line _ => decide (line = Counter.lineOf .readCounter)
  | _ => false

/-- A reply with a number of the counter. -/
def givesNumber : PortCall → Bool
  | .read _ (.ok line) => (Reply.judge Command.readCounter.text line).toBool
  | _ => false

end PortCall

/-- How often the number of the counter was asked for and then given by the very next call. -/
def numbersRead (calls : List PortCall) : Nat :=
  (calls.zip calls.tail).countP fun (first, second) => first.asksNumber && second.givesNumber

/-- Calls that do not begin with a reply, so that nothing asked before them is answered in them. -/
def Fresh (calls : List PortCall) : Prop := ∀ call ∈ calls.head?, call.givesNumber = false

/-- Calls beside the readings of the counter: its number is not asked for, nor given by the first of them. -/
structure Aside (calls : List PortCall) : Prop where
  fresh : Fresh calls
  none : ∀ call ∈ calls, call.asksNumber = false

section
variable {calls rest : List PortCall}

theorem Fresh.nil : Fresh [] := by rintro _ ⟨⟩

theorem Fresh.append (first : Fresh calls) (last : Fresh rest) : Fresh (calls ++ rest) := by
  cases calls with
  | nil => exact last
  | cons => exact first

theorem numbersRead_cons_cons (first second : PortCall) (later : List PortCall) :
    numbersRead (first :: second :: later) =
      numbersRead (second :: later) + if first.asksNumber && second.givesNumber then 1 else 0 := by
  rw [numbersRead, List.tail_cons, List.zip_cons_cons, List.countP_cons]
  rfl

/-- Calls that begin anew are counted alone. -/
theorem numbersRead_append (fresh : Fresh rest) :
    numbersRead (calls ++ rest) = numbersRead calls + numbersRead rest := by
  induction calls with
  | nil => exact (Nat.zero_add _).symm
  | cons first calls ih =>
    cases calls with
    | nil =>
      cases rest with
      | nil => rfl
      | cons second rest =>
        -- The two calls at the seam are no reading, whatever the first of them asks for.
        have silent : second.givesNumber = false := fresh second rfl
        rw [List.singleton_append, numbersRead_cons_cons, silent, Bool.and_false, if_neg Bool.false_ne_true]
        exact (Nat.zero_add _).symm
    | cons second calls =>
      rw [List.cons_append, List.cons_append, numbersRead_cons_cons, numbersRead_cons_cons, ← List.cons_append,
        ih]
      omega

namespace Aside

theorem nil : Aside [] := ⟨.nil, List.forall_mem_nil _⟩

theorem append (first : Aside calls) (last : Aside rest) : Aside (calls ++ rest) :=
  ⟨first.fresh.append last.fresh, List.forall_mem_append.mpr ⟨first.none, last.none⟩⟩

theorem numbersRead (aside : Aside calls) : numbersRead calls = 0 := by
  refine List.countP_eq_zero.mpr ?_
  rintro ⟨first, second⟩ member
  dsimp only
  rw [aside.none first (List.of_mem_zip member).1]
  exact Bool.false_ne_true

end Aside

end

section
variable {port : Port} {calls : List PortCall} {accepted : Option (List UInt8)}

theorem Transaction.Makes.fresh {transaction : Transaction} (made : transaction.Makes port calls accepted) :
    Fresh calls := by
  cases made <;> rintro _ ⟨⟩ <;> rfl

/-- Any other command is beside the readings of the counter. -/
theorem Transaction.Makes.aside {command : Command} (made : command.transaction.Makes port calls accepted)
    (other : command ≠ .readCounter) : Aside calls := by
  refine ⟨made.fresh, fun call member => ?_⟩
  cases call with
  | wrote target line answer =>
    obtain ⟨_, _, split⟩ := List.append_of_mem member
    obtain ⟨_, _, framed⟩ := made.written split
    refine decide_eq_false fun same => other (Command.eq_of_text (Or.inr rfl) ?_)
    exact Exchange.frame_inj framed (same ▸ rfl)
  | _ => rfl

/-- The command for the number reads one where its answer is accepted, and else none. -/
theorem Transaction.Makes.numbersRead (made : Command.readCounter.transaction.Makes port calls accepted) :
    numbersRead calls = accepted.toList.length := by
  cases made with
  | unwritten => rfl
  | @refused line answer framed refused =>
    have silent : (PortCall.read port answer).givesNumber = false := by
      rcases answer with _ | reply
      · rfl
      · cases judged : Reply.judge Command.readCounter.text reply with
        | error => simp only [PortCall.givesNumber, judged, Except.toBool]
        | ok n =>
          -- A reply with a number would have been accepted.
          obtain ⟨text, decoded, passed, denoted⟩ := Reply.judge_iff.mp judged
          have nonempty := Reply.Answers.nonempty (Reply.judge_iff.mp judged)
          exact absurd ⟨nonempty, text, decoded, passed, n, denoted⟩ (refused reply rfl)
    rw [numbersRead_cons_cons, silent, Bool.and_false]
    rfl
  | @answered line reply framed accepts =>
    have asks : (PortCall.wrote port line (.ok line.length)).asksNumber = true :=
      decide_eq_true (Except.ok.inj framed).symm
    have gives : (PortCall.read port (.ok reply)).givesNumber = true := by
      obtain ⟨_, text, decoded, passed, n, denoted⟩ := accepts
      have judged : Reply.judge Command.readCounter.text reply = .ok n :=
        Reply.judge_iff.mpr ⟨text, decoded, passed, denoted⟩
      simp only [PortCall.givesNumber, judged, Except.toBool]
    rw [numbersRead_cons_cons, asks, gives]
    rfl

/-- A plan without commands of the counter. -/
theorem Begins.aside {plan : List Stem} (begun : Begins port plan calls)
    (others : ∀ stem ∈ plan, stem.ofCounter = false) : Aside calls := by
  have beside {stem : Stem} {calls : List PortCall} {accepted : Option (List UInt8)}
      (makes : stem.Makes port calls accepted) (other : stem.ofCounter = false) : Aside calls := by
    obtain ⟨command, covers, made, _⟩ := makes
    refine made.aside ?_
    rintro rfl
    cases covers
    cases other
  induction begun with
  | nil => exact .nil
  | failed makes => exact beside makes (others _ List.mem_cons_self)
  | next makes _ ih =>
    rw [List.forall_mem_cons] at others
    exact (beside makes others.1).append (ih others.2)

end

/-- Whatever the program is answered, it reads no number of the counter. -/
def Program.Aside {α : Type} (program : Program α) : Prop :=
  ∀ steps ending, program.Runs steps ending → SignalGenerator.Aside (portCalls steps)

namespace Program.Aside

variable {α β : Type} {port : Port} {program : Program α} {next : α → Program β}

theorem of_quiet (quiet : program.Quiet) : program.Aside := by
  intro steps ending run
  rw [quiet _ _ run]
  exact .nil

theorem of_ends {command : Command} (other : command ≠ .readCounter) {gives : List UInt8 → α → Prop}
    (ends : ∀ steps ending, program.Runs steps ending →
      command.transaction.Ends port gives (portCalls steps) ending) : program.Aside := by
  intro steps ending run
  have ended := ends steps ending run
  generalize portCalls steps = calls at ended ⊢
  cases ended with
  | unencodable => exact .nil
  | failed made => exact made.aside other
  | answered made _ => exact made.aside other

theorem bind (first : program.Aside) (rest : ∀ value, (next value).Aside) : (program.bind next).Aside := by
  intro steps ending run
  rcases run.of_bind with ⟨value, early, late, rfl, begun, continued⟩ | ⟨_, stopped, _⟩ | ⟨stuck, _⟩
  · rw [portCalls_append]
    exact (first _ _ begun).append (rest value _ _ continued)
  · exact first _ _ stopped
  · exact first _ _ stuck

theorem attempt (aside : program.Aside) : program.attempt.Aside := by
  intro steps ending run
  rcases run.of_attempt with ⟨_, done, _⟩ | ⟨_, failed, _⟩ | ⟨stuck, _⟩
  · exact aside _ _ done
  · exact aside _ _ failed
  · exact aside _ _ stuck

/-- A request that is neither for the number of the counter nor answered with one. -/
theorem ask {request : Request} {next : request.Answer → Program α}
    (other : ∀ answer, ∀ call ∈ Step.portCall? ⟨request, answer⟩,
      call.asksNumber = false ∧ call.givesNumber = false)
    (rest : ∀ answer, (next answer).Aside) : (Program.ask request next).Aside := by
  intro steps ending run
  obtain ⟨answer, later, rfl, continued⟩ := run.of_ask
  have aside := rest answer _ _ continued
  cases made : Step.portCall? ⟨request, answer⟩ with
  | none =>
    rw [portCalls, List.filterMap_cons_none made]
    exact aside
  | some call =>
    rw [portCalls, List.filterMap_cons_some made]
    obtain ⟨asks, gives⟩ := other answer call made
    exact ⟨by rintro _ ⟨⟩; exact gives, List.forall_mem_cons.mpr ⟨asks, aside.none⟩⟩

/-- A call that is made again and again. -/
theorem repeating {policy : RetryPolicy} {call : Program (Except Fault α)} {pause : Program Unit}
    (calls : call.Aside) (pauses : pause.Quiet) (further : Nat) :
    (policy.repeating call pause further).Aside := by
  induction further with
  | zero => exact calls
  | succ further ih =>
    refine calls.bind fun outcome => ?_
    rcases outcome with fault | value
    · dsimp only
      split
      · exact (of_quiet pauses).bind fun _ => ih
      · exact of_quiet (.result _)
    · exact of_quiet (.result _)

end Program.Aside

open Program (Aside Quiet Runs)

theorem Generator.openOn_aside (name : Given String) (baudRate : Given Int) : (openOn name baudRate).Aside := by
  have identifies (port : Port) : (Identity.identify port).Aside := by
    have asks : (Exchange.query port Command.readModel.text).Aside :=
      .of_ends (nofun : Command.readModel ≠ .readCounter) fun _ _ => Exchange.query_runs
    exact asks.bind fun _ => .of_quiet (.ofExcept _)
  refine (Aside.of_quiet (.ask (fun _ => rfl) fun _ => .result _)).bind fun _ => ?_
  refine Aside.ask (by rintro _ _ ⟨⟩; exact ⟨rfl, rfl⟩) fun answer => (Aside.of_quiet (.ofExcept _)).bind ?_
  intro port
  refine (identifies port).attempt.bind fun outcome => ?_
  rcases outcome with fault | identity
  · dsimp only
    split
    · exact .ask (by rintro _ _ ⟨⟩; exact ⟨rfl, rfl⟩) fun _ => .of_quiet (.fail _)
    · exact .of_quiet (.fail _)
  · exact .of_quiet ((Quiet.info _).bind fun _ => .result _)

namespace Acquisition

theorem openPersistently_aside (name : Given String) (baudRate : Given Int) :
    (openPersistently name baudRate).Aside := by
  have pauses : ((Program.info "Retrying after error").bind fun _ => Program.pauseAtMost longestPause).Quiet :=
    (Quiet.info _).bind fun _ => .ask (fun _ => rfl) fun _ => .ofExcept _
  exact (Aside.repeating (Generator.openOn_aside name baudRate).attempt pauses _).bind
    fun _ => .of_quiet (.ofExcept _)

theorem prepare_aside (generator : Generator) (configuration : Configuration) :
    (prepare generator configuration).Aside := by
  intro steps ending run
  obtain ⟨channel, chosen⟩ := exists_chosen configuration.arguments
  obtain ⟨waveform, _, _, progress⟩ := prepare_learns chosen _ _ run
  exact progress.begins.aside (setupPlan_others _ _ _)

end Acquisition

namespace Sampler

variable (sampler : Sampler)

theorem start_aside : sampler.start.Aside := by
  have enables : (sampler.generator.enableCounter true).Aside :=
    .of_ends (nofun : Command.enableCounter true ≠ .readCounter) fun _ _ => Exchange.order_runs
  have selects : (sampler.generator.selectFunction .frequency).Aside :=
    .of_ends (nofun : Command.selectFunction .frequency ≠ .readCounter) fun _ _ => Exchange.order_runs
  refine (enables.bind fun _ => selects).attempt.bind fun outcome => .of_quiet ?_
  rcases outcome with _ | _
  · exact .result _
  · exact Quiet.stopwatch.bind fun _ => (Quiet.info _).bind fun _ => .result _

theorem stop_aside : sampler.stop.Aside := by
  have disables : (sampler.generator.enableCounter false).Aside :=
    .of_ends (nofun : Command.enableCounter false ≠ .readCounter) fun _ _ => Exchange.order_runs
  refine disables.attempt.bind fun outcome => .of_quiet ?_
  rcases outcome with _ | _
  · exact .result _
  · exact (Quiet.info _).bind fun _ => .result _

end Sampler

namespace Acquisition

theorem announce_quiet (outcome : Except Fault Unit) : (announce outcome).Quiet :=
  fun _ _ run => (announce_runs run).1

theorem shutDown_aside (generator : Generator) (sampler : Option Sampler) :
    (shutDown generator sampler).Aside := by
  have closes (stopped : Except Fault Unit) : (generator.close.bind fun _ =>
      (Program.info "Serial port closed.").bind fun _ => Program.ofExcept stopped).Aside :=
    .ask (by rintro _ _ ⟨⟩; exact ⟨rfl, rfl⟩) fun _ => .of_quiet ((Quiet.info _).bind fun _ => .ofExcept _)
  cases sampler with
  | none => exact closes (.ok ())
  | some sampler =>
    exact (Aside.of_quiet (.info _)).bind fun _ => sampler.stop_aside.bind fun _ => closes _

end Acquisition

section
variable {port : Port} {steps : List Step}

/-- Only a function that is read in the end has its number read. -/
theorem Counter.Reads.numbersRead {function : CounterFunction} {outcome : Except Fault Int}
    (reads : Reads port function steps outcome) :
    Fresh (portCalls steps) ∧ SignalGenerator.numbersRead (portCalls steps) = if outcome.isOk then 1 else 0 := by
  have selecting {calls : List PortCall} {accepted : Option (List UInt8)}
      (made : (Command.selectFunction function).transaction.Makes port calls accepted) : Aside calls :=
    made.aside nofun
  cases reads with
  | unselected _ made => exact ⟨(selecting made).fresh, (selecting made).numbersRead⟩
  | unread _ selected _ made =>
    rw [portCalls_append, numbersRead_append made.fresh, (selecting selected).numbersRead, made.numbersRead]
    exact ⟨(selecting selected).fresh.append made.fresh, rfl⟩
  | read _ selected _ exchanged =>
    obtain ⟨_, _, made⟩ := exchanged.makes
    have counted := Transaction.Makes.numbersRead made
    rw [portCalls_append, numbersRead_append made.fresh, (selecting selected).numbersRead, counted]
    exact ⟨(selecting selected).fresh.append made.fresh, rfl⟩

/-- As many numbers are read as there are functions, and fewer where one of them fails. -/
theorem Sampler.Measures.numbersRead {functions : List CounterFunction} {outcome : Except Fault (List Sample)}
    (measures : Measures port functions steps outcome) :
    Fresh (portCalls steps) ∧ (∀ samples, outcome = .ok samples →
        SignalGenerator.numbersRead (portCalls steps) = functions.length) ∧
      ∀ fault, outcome = .error fault → SignalGenerator.numbersRead (portCalls steps) < functions.length := by
  induction measures with
  | nil => exact ⟨.nil, fun _ _ => rfl, by rintro _ ⟨⟩⟩
  | failed reads =>
    obtain ⟨fresh, counted⟩ := reads.numbersRead
    refine ⟨fresh, by rintro _ ⟨⟩, fun _ _ => ?_⟩
    rw [counted]
    exact Nat.succ_pos _
  | @next _ _ _ _ _ _ outcome reads _ _ ih =>
    obtain ⟨fresh, counted⟩ := reads.numbersRead
    obtain ⟨later, all, fewer⟩ := ih
    have one : SignalGenerator.numbersRead (portCalls _) = 1 := counted
    rw [portCalls_append, numbersRead_append later, one, List.length_cons, Nat.add_comm]
    refine ⟨fresh.append later, ?_, ?_⟩
    · cases outcome with
      | ok samples => exact fun _ _ => congrArg (· + 1) (all samples rfl)
      | error => rintro _ ⟨⟩
    · cases outcome with
      | ok => rintro _ ⟨⟩
      | error fault => exact fun _ _ => Nat.succ_lt_succ (fewer fault rfl)

end

end SignalGenerator
