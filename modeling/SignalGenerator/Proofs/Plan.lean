import SignalGenerator.Proofs.Device
import SignalGenerator.Proofs.ReplyGrammar
import SignalGenerator.Proofs.Turns

/-!
Plans for a conversation. A plan lists exchanges in order, and a program that sends a plan makes these
exchanges one after the other: all of them where it ends with a result, and where it fails those up to the
failure.
-/

namespace SignalGenerator

/-- One exchange of a plan. -/
inductive Stem
  | command (command : Command)
  /-- A register of a channel is set, to any value. -/
  | setting (channel : Int) (register : Register)
  /-- The waveform of a channel is read, and it is this one. -/
  | waveform (channel : Int) (waveform : Waveform)

/-- A command that a stem stands for. -/
inductive Stem.Covers : Stem → Command → Prop
  | command {command} : Covers (.command command) command
  | setting {channel register n} : Covers (.setting channel register) (.set channel register n)
  | waveform {channel waveform} : Covers (.waveform channel waveform) (.read channel .waveform)

namespace Stem

/-- A line that is written for a stem. -/
def Writes (stem : Stem) (line : List UInt8) : Prop :=
  ∃ command, stem.Covers command ∧ Exchange.frame command.text = .ok line

/-- A reply that the stem allows for. -/
def Hears : Stem → List UInt8 → Prop
  | .waveform channel found, reply =>
    ∃ n, Reply.Answers (Command.read channel .waveform).text reply n ∧ found = .ofId n
  | _, _ => True

/-- The calls of the exchange, with the reply that was accepted or with none. -/
def Makes (stem : Stem) (port : Port) (calls : List PortCall) (accepted : Option (List UInt8)) :
    Prop :=
  ∃ command, stem.Covers command ∧ command.transaction.Makes port calls accepted ∧
    ∀ reply, accepted = some reply → stem.Hears reply

end Stem

/-- The calls carry out a plan up to some exchange, which may have failed. -/
inductive Begins (port : Port) : List Stem → List PortCall → Prop
  | nil {plan} : Begins port plan []
  | failed {stem plan calls} : stem.Makes port calls none → Begins port (stem :: plan) calls
  | next {stem plan calls reply rest} : stem.Makes port calls (some reply) →
      Begins port plan rest → Begins port (stem :: plan) (calls ++ rest)

/-- The calls carry out a plan from beginning to end. -/
inductive Completes (port : Port) : List Stem → List PortCall → Prop
  | nil : Completes port [] []
  | next {stem plan calls reply rest} : stem.Makes port calls (some reply) →
      Completes port plan rest → Completes port (stem :: plan) (calls ++ rest)

/-- The lines that are written to a port, in order. -/
def linesOn (port : Port) (calls : List PortCall) : List (List UInt8) :=
  calls.filterMap fun
    | .wrote target line _ => if target = port then some line else none
    | _ => none

@[simp] theorem linesOn_append (port : Port) (first rest : List PortCall) :
    linesOn port (first ++ rest) = linesOn port first ++ linesOn port rest := List.filterMap_append

section
variable {port : Port} {plan later : List Stem} {calls rest : List PortCall}

/-- A transaction writes the line of its command, and all its calls are made on its port. -/
theorem Transaction.Makes.linesOn {transaction : Transaction} {accepted : Option (List UInt8)}
    (made : transaction.Makes port calls accepted) :
    (∃ line, linesOn port calls = [line] ∧ Exchange.frame transaction.command = .ok line) ∧
      ∀ call ∈ calls, call.Reaches port := by
  cases made <;> simp_all [SignalGenerator.linesOn, PortCall.Reaches]

theorem Stem.Makes.linesOn {stem : Stem} {accepted : Option (List UInt8)}
    (made : stem.Makes port calls accepted) :
    (∃ line, linesOn port calls = [line] ∧ stem.Writes line) ∧ ∀ call ∈ calls, call.Reaches port := by
  obtain ⟨command, covers, made, _⟩ := made
  obtain ⟨⟨line, lines, framed⟩, reaches⟩ := made.linesOn
  exact ⟨⟨line, lines, command, covers, framed⟩, reaches⟩

theorem Completes.single {stem : Stem} {reply : List UInt8}
    (makes : stem.Makes port calls (some reply)) : Completes port [stem] calls := by
  have whole := Completes.next makes .nil
  rwa [List.append_nil] at whole

theorem Completes.begins (whole : Completes port plan calls) : Begins port plan calls := by
  induction whole with
  | nil => exact .nil
  | next made _ ih => exact .next made ih

theorem Completes.append (first : Completes port plan calls) (last : Completes port later rest) :
    Completes port (plan ++ later) (calls ++ rest) := by
  induction first with
  | nil => exact last
  | next made _ ih =>
    rw [List.append_assoc]
    exact .next made ih

theorem Completes.append_begins (first : Completes port plan calls) (last : Begins port later rest) :
    Begins port (plan ++ later) (calls ++ rest) := by
  induction first with
  | nil => exact last
  | next made _ ih =>
    rw [List.append_assoc]
    exact .next made ih

theorem Begins.of_nil (begun : Begins port [] calls) : calls = [] := by
  cases begun
  rfl

/-- What comes later in a plan does not matter where the plan is not carried out that far. -/
theorem Begins.append (begun : Begins port plan calls) (later : List Stem) :
    Begins port (plan ++ later) calls := by
  induction begun with
  | nil => exact .nil
  | failed made => exact .failed made
  | next made _ ih => exact .next made ih

/-- The lines of a plan that is carried out are the lines of its exchanges, one for each. -/
theorem Completes.lines (whole : Completes port plan calls) :
    List.Forall₂ Stem.Writes plan (linesOn port calls) := by
  induction whole with
  | nil => exact .nil
  | next made _ ih =>
    obtain ⟨⟨line, lines, writes⟩, _⟩ := made.linesOn
    rw [linesOn_append, lines]
    exact .cons writes ih

/-- The lines of a plan that is begun are the lines of its first exchanges. -/
theorem Begins.lines (begun : Begins port plan calls) :
    List.Forall₂ Stem.Writes (plan.take (linesOn port calls).length) (linesOn port calls) := by
  induction begun with
  | nil => exact .nil
  | failed made =>
    obtain ⟨⟨line, lines, writes⟩, _⟩ := made.linesOn
    rw [lines]
    exact .cons writes .nil
  | next made _ ih =>
    obtain ⟨⟨line, lines, writes⟩, _⟩ := made.linesOn
    rw [linesOn_append, lines]
    exact .cons writes ih

theorem Begins.reaches (begun : Begins port plan calls) : ∀ call ∈ calls, call.Reaches port := by
  induction begun with
  | nil => exact List.forall_mem_nil _
  | failed made => exact made.linesOn.2
  | next made _ ih => exact List.forall_mem_append.mpr ⟨made.linesOn.2, ih⟩

/-- Every line is written for some exchange of the plan. -/
theorem Begins.writes (begun : Begins port plan calls) {line : List UInt8}
    (member : line ∈ linesOn port calls) : ∃ stem ∈ plan, stem.Writes line := by
  induction begun with
  | nil => cases member
  | failed made =>
    obtain ⟨⟨_, lines, writes⟩, _⟩ := made.linesOn
    rw [lines] at member
    cases List.mem_singleton.mp member
    exact ⟨_, List.mem_cons_self, writes⟩
  | next made _ ih =>
    obtain ⟨⟨_, lines, writes⟩, _⟩ := made.linesOn
    rw [linesOn_append, lines] at member
    rcases List.mem_cons.mp member with rfl | later
    · exact ⟨_, List.mem_cons_self, writes⟩
    · obtain ⟨stem, among, writes⟩ := ih later
      exact ⟨stem, List.mem_cons_of_mem _ among, writes⟩

end

theorem Outcome.ofExcept_inj {α : Type} {first second : Except Fault α}
    (same : Outcome.ofExcept first = .ofExcept second) : first = second := by
  cases first <;> cases second <;> cases same <;> rfl

/-- Going on with the outcome of a program, whatever it is. -/
theorem Program.Runs.of_attempt_bind {α β : Type} {program : Program α}
    {next : Except Fault α → Program β} {steps : List Step} {ending : Outcome β}
    (run : (program.attempt.bind next).Runs steps ending) :
    (∃ outcome first rest, steps = first ++ rest ∧ program.Runs first (.ofExcept outcome) ∧
        (next outcome).Runs rest ending) ∨
      (program.Runs steps .unfinished ∧ ending = .unfinished) := by
  rcases run.of_bind with ⟨outcome, first, rest, rfl, begun, continued⟩ | ⟨_, stopped, _⟩ | ⟨stuck, rfl⟩
  · rcases begun.of_attempt with ⟨value, done, same⟩ | ⟨fault, failed, same⟩ | ⟨_, same⟩
    · cases same
      exact Or.inl ⟨.ok value, first, rest, rfl, done, continued⟩
    · cases same
      exact Or.inl ⟨.error fault, first, rest, rfl, failed, continued⟩
    · cases same
  · rcases stopped.of_attempt with ⟨_, _, same⟩ | ⟨_, _, same⟩ | ⟨_, same⟩ <;> cases same
  · rcases stuck.of_attempt with ⟨_, _, same⟩ | ⟨_, _, same⟩ | ⟨alone, _⟩
    · cases same
    · cases same
    · exact Or.inr ⟨alone, rfl⟩

/-- A program that is followed by what is known already. -/
theorem Program.Runs.of_bind_ofExcept {α : Type} {program : Program Unit} {outcome : Except Fault α}
    {steps : List Step} {ending : Outcome α}
    (run : (program.bind fun _ => Program.ofExcept outcome).Runs steps ending) :
    (∃ first, program.Runs steps (.ofExcept first) ∧ ending = .ofExcept (first.bind fun _ => outcome)) ∨
      program.Runs steps .unfinished := by
  rcases run.of_bind with ⟨_, first, rest, rfl, done, continued⟩ | ⟨fault, stopped, rfl⟩ | ⟨stuck, _⟩
  · cases outcome with
    | ok value =>
      obtain ⟨rfl, rfl⟩ := Program.Runs.of_result continued
      rw [List.append_nil]
      exact Or.inl ⟨.ok (), done, rfl⟩
    | error fault =>
      obtain ⟨rfl, rfl⟩ := Program.Runs.of_fail continued
      rw [List.append_nil]
      exact Or.inl ⟨.ok (), done, rfl⟩
  · exact Or.inl ⟨.error fault, stopped, rfl⟩
  · exact Or.inr stuck

namespace Program

variable {α β : Type} {program : Program α} {next : α → Program β} {steps : List Step}

theorem Runs.andThen {first rest : List Step} {value : α} {ending : Outcome β}
    (begun : program.Runs first (.result value)) (continued : (next value).Runs rest ending) :
    (program.bind next).Runs (first ++ rest) ending := by
  induction program generalizing first with
  | result =>
    cases begun
    exact continued
  | fail => cases begun
  | unfinished => cases begun
  | ask request answered ih =>
    obtain ⟨answer, later, rfl, going⟩ := begun.of_ask
    exact .ask (ih answer going)

theorem Runs.stops {fault : Fault} (stopped : program.Runs steps (.fault fault)) :
    (program.bind next).Runs steps (.fault fault) := by
  induction program generalizing steps with
  | result => cases stopped
  | fail =>
    cases stopped
    exact .fail
  | unfinished => cases stopped
  | ask request answered ih =>
    obtain ⟨answer, later, rfl, going⟩ := stopped.of_ask
    exact .ask (ih answer going)

/-- A sequence that ends has done both programs, or the first one has failed. -/
theorem runs_bind_iff {outcome : Except Fault β} : (program.bind next).Runs steps (.ofExcept outcome) ↔
    (∃ value first rest, steps = first ++ rest ∧ program.Runs first (.result value) ∧
      (next value).Runs rest (.ofExcept outcome)) ∨
    ∃ fault, program.Runs steps (.fault fault) ∧ outcome = .error fault := by
  constructor
  · intro run
    rcases run.of_bind with both | ⟨fault, stopped, same⟩ | ⟨_, same⟩
    · exact Or.inl both
    · exact Or.inr ⟨fault, stopped, Outcome.ofExcept_eq_fault.mp same⟩
    · cases outcome <;> cases same
  · rintro (⟨value, first, rest, rfl, begun, continued⟩ | ⟨fault, stopped, rfl⟩)
    · exact begun.andThen continued
    · exact stopped.stops

theorem runs_attempt_iff {outcome : Except Fault α} :
    program.attempt.Runs steps (.result outcome) ↔ program.Runs steps (.ofExcept outcome) := by
  constructor
  · intro run
    rcases run.of_attempt with ⟨_, done, same⟩ | ⟨_, failed, same⟩ | ⟨_, same⟩
    · cases same
      exact done
    · cases same
      exact failed
    · cases same
  · intro run
    induction program generalizing steps with
    | result =>
      obtain ⟨rfl, same⟩ := run.of_result
      cases Outcome.ofExcept_eq_result.mp same
      exact .result
    | fail =>
      obtain ⟨rfl, same⟩ := run.of_fail
      cases Outcome.ofExcept_eq_fault.mp same
      exact .result
    | unfinished => cases outcome <;> cases run
    | ask request answered ih =>
      obtain ⟨answer, later, rfl, going⟩ := run.of_ask
      exact .ask (ih answer going)

/-- What is made of a result does not change what is done. -/
theorem runs_map_iff {f : α → β} {outcome : Except Fault β} :
    (program.bind fun value => .result (f value)).Runs steps (.ofExcept outcome) ↔
      ∃ given, outcome = given.map f ∧ program.Runs steps (.ofExcept given) := by
  rw [runs_bind_iff]
  constructor
  · rintro (⟨value, first, rest, rfl, begun, ended⟩ | ⟨fault, stopped, rfl⟩)
    · obtain ⟨rfl, same⟩ := ended.of_result
      rw [List.append_nil]
      exact ⟨.ok value, Outcome.ofExcept_eq_result.mp same, begun⟩
    · exact ⟨.error fault, rfl, stopped⟩
  · rintro ⟨fault | value, rfl, run⟩
    · exact Or.inr ⟨fault, run, rfl⟩
    · exact Or.inl ⟨value, steps, [], (List.append_nil _).symm, run, .result⟩

end Program

/-- How far the calls get with a plan: to its end where there is a value, and else to a failure. -/
def Progress (port : Port) (plan : List Stem) (calls : List PortCall) {α : Type} : Except Fault α → Prop
  | .ok _ => Completes port plan calls
  | .error _ => Begins port plan calls

theorem Progress.after {port : Port} {plan later : List Stem} {calls rest : List PortCall} {α : Type}
    {outcome : Except Fault α} (progress : Progress port later rest outcome)
    (whole : Completes port plan calls) :
    Progress port (plan ++ later) (calls ++ rest) outcome := by
  cases outcome with
  | ok _ => exact whole.append progress
  | error _ => exact whole.append_begins progress

theorem Progress.begins {port : Port} {plan : List Stem} {calls : List PortCall} {α : Type}
    {outcome : Except Fault α} (progress : Progress port plan calls outcome) :
    Begins port plan calls := by
  cases outcome with
  | ok _ => exact Completes.begins progress
  | error _ => exact progress

/-- Every execution of the program ends, and carries out the plan as far as it gets. -/
def Program.Sends {α : Type} (port : Port) (plan : List Stem) (program : Program α) : Prop :=
  ∀ steps ending, program.Runs steps ending →
    ∃ outcome, ending = .ofExcept outcome ∧ Progress port plan (portCalls steps) outcome

namespace Program.Sends

variable {α β : Type} {port : Port} {plan later : List Stem} {program : Program α}
  {next : α → Program β}

theorem result (value : α) : (Program.result value).Sends port [] := by
  intro steps ending run
  obtain ⟨rfl, rfl⟩ := run.of_result
  exact ⟨.ok value, rfl, .nil⟩

/-- To fail is to stay within any plan. -/
theorem fail (fault : Fault) : (Program.fail fault : Program α).Sends port plan := by
  intro steps ending run
  obtain ⟨rfl, rfl⟩ := run.of_fail
  exact ⟨.error fault, rfl, .nil⟩

theorem ofExcept (answer : Except Fault α) : (Program.ofExcept answer).Sends port [] := by
  cases answer with
  | ok value => exact result value
  | error fault => exact fail fault

/-- A request that no port takes part in. -/
theorem ask {request : Request} {next : request.Answer → Program α}
    (silent : ∀ answer, Step.portCall? ⟨request, answer⟩ = none)
    (rest : ∀ answer, (next answer).Sends port plan) : (Program.ask request next).Sends port plan := by
  intro steps ending run
  obtain ⟨answer, later, rfl, continued⟩ := run.of_ask
  rw [portCalls, List.filterMap_cons_none (silent answer)]
  exact rest answer _ _ continued

/-- Going on after a program that sends its plan. -/
theorem bind_runs (sends : program.Sends port plan) {steps : List Step} {ending : Outcome β}
    (run : (program.bind next).Runs steps ending) :
    (∃ value first rest, steps = first ++ rest ∧ Completes port plan (portCalls first) ∧
        (next value).Runs rest ending) ∨
      ∃ fault, ending = .fault fault ∧ Begins port plan (portCalls steps) := by
  have settled : ∀ steps ending, program.Runs steps ending →
      (∃ value, ending = .result value ∧ Completes port plan (portCalls steps)) ∨
        ∃ fault, ending = .fault fault ∧ Begins port plan (portCalls steps) := by
    intro steps ending run
    obtain ⟨fault | value, rfl, progress⟩ := sends steps ending run
    · exact Or.inr ⟨fault, rfl, progress⟩
    · exact Or.inl ⟨value, rfl, progress⟩
  exact run.of_settled_bind settled

theorem bind (first : program.Sends port plan) (rest : ∀ value, (next value).Sends port later) :
    (program.bind next).Sends port (plan ++ later) := by
  intro steps ending run
  rcases first.bind_runs run with ⟨value, early, late, rfl, whole, continued⟩ | ⟨fault, rfl, begun⟩
  · obtain ⟨outcome, rfl, progress⟩ := rest value _ _ continued
    exact ⟨outcome, rfl, portCalls_append early late ▸ progress.after whole⟩
  · exact ⟨.error fault, rfl, begun.append later⟩

/-- What makes no exchange can come before a plan. -/
theorem silent_bind (first : program.Sends port []) (rest : ∀ value, (next value).Sends port plan) :
    (program.bind next).Sends port plan := first.bind rest

/-- What makes no exchange can come after a plan. -/
theorem bind_silent (first : program.Sends port plan) (rest : ∀ value, (next value).Sends port []) :
    (program.bind next).Sends port plan := by
  have sends := first.bind rest
  rwa [List.append_nil] at sends

theorem ofExcept_bind {answer : Except Fault α} (rest : ∀ value, (next value).Sends port plan) :
    ((Program.ofExcept answer).bind next).Sends port plan :=
  (ofExcept answer).silent_bind rest

theorem ofArithmetic_bind {answer : Except ArithmeticFault α}
    (rest : ∀ value, (next value).Sends port plan) :
    ((Program.ofArithmetic answer).bind next).Sends port plan :=
  (ofExcept _).silent_bind rest

/-- Going on with the outcome of a program that sends its plan. -/
theorem attempt_bind_runs (sends : program.Sends port plan) {next : Except Fault α → Program β}
    {steps : List Step} {ending : Outcome β} (run : (program.attempt.bind next).Runs steps ending) :
    ∃ outcome first rest, steps = first ++ rest ∧ program.Runs first (.ofExcept outcome) ∧
      Progress port plan (portCalls first) outcome ∧ (next outcome).Runs rest ending := by
  rcases run.of_attempt_bind with ⟨outcome, first, rest, rfl, begun, continued⟩ | ⟨stuck, _⟩
  · obtain ⟨other, same, progress⟩ := sends _ _ begun
    cases Outcome.ofExcept_inj same
    exact ⟨outcome, first, rest, rfl, begun, progress, continued⟩
  · obtain ⟨outcome, same, _⟩ := sends _ _ stuck
    cases outcome <;> cases same

/-- One exchange. A command that cannot be encoded is not sent at all. -/
theorem of_ends {stem : Stem} {command : Command} {gives : List UInt8 → α → Prop}
    (covers : stem.Covers command)
    (ends : ∀ steps ending, program.Runs steps ending →
      command.transaction.Ends port gives (portCalls steps) ending)
    (hears : ∀ reply value, gives reply value → stem.Hears reply) :
    program.Sends port [stem] := by
  intro steps ending run
  have ended := ends steps ending run
  generalize portCalls steps = calls at ended ⊢
  cases ended with
  | unencodable => exact ⟨.error _, rfl, .nil⟩
  | failed made => exact ⟨.error _, rfl, .failed ⟨command, covers, made, nofun⟩⟩
  | answered made given =>
    refine ⟨.ok _, rfl, .single ⟨command, covers, made, fun _ same => ?_⟩⟩
    exact Option.some.inj same ▸ hears _ _ given

theorem info (message : String) : (Program.info message).Sends port [] :=
  ask (fun _ => rfl) fun _ => result _

theorem now : Program.now.Sends port [] := ask (fun _ => rfl) fun _ => ofExcept _

theorem stopwatch : Program.stopwatch.Sends port [] := ask (fun _ => rfl) fun _ => result _

end Program.Sends

end SignalGenerator
