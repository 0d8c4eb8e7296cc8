import SignalGenerator.Proofs.Sending

/-!
How a generator is obtained. A port is opened and asked for the model, again after a failed exchange. All
openings before the last one led nowhere, so the calls alone tell on which port the generator is.
-/

namespace SignalGenerator

open Program (Sends)

/-- The calls on a port begin with an exchange in which a generator is identified. -/
def Identifies (port : Port) (calls : List PortCall) : Prop :=
  ∃ asked rest line reply identity, calls = asked ++ rest ∧
    Command.readModel.transaction.Makes port asked (some line) ∧
    Reply.ofLine line = .ok reply ∧ Identity.ofReply reply = .ok identity

/-- Calls in which no generator is identified, whatever comes after them. -/
def Unidentified (port : Port) (calls : List PortCall) : Prop :=
  ∀ later, ¬ Identifies port (calls ++ later)

/-- Calls among which no opening of a port led to a generator, whatever comes after them. -/
def Fruitless (calls : List PortCall) : Prop :=
  ∀ before name port rest, calls = before ++ .opened name (.ok port) :: rest → Unidentified port rest

/-- A call that opens a port. -/
def PortCall.Opens : PortCall → Prop
  | .opened _ answer => ∃ port, answer = .ok port
  | _ => False

section
variable {port : Port} {calls rest : List PortCall}

theorem Unidentified.append (none : Unidentified port calls) (more : List PortCall) :
    Unidentified port (calls ++ more) := by
  intro later identified
  rw [List.append_assoc] at identified
  exact none _ identified

theorem Identifies.append (identifies : Identifies port calls) (more : List PortCall) :
    Identifies port (calls ++ more) := by
  obtain ⟨asked, rest, line, reply, identity, rfl, made, decoded, named⟩ := identifies
  exact ⟨asked, rest ++ more, line, reply, identity, List.append_assoc _ _ _, made, decoded, named⟩

/-- A generator of 25 MHz that names its model. -/
theorem identifies_bench (port : Port) (rest : List PortCall) :
    Identifies port ([.wrote port (asciiBytes ":r0c\n".toList) (.ok 5),
      .read port (.ok (asciiBytes ":r0c5225A000\n".toList))] ++ rest) := by
  have decoded : Reply.ofLine (asciiBytes ":r0c5225A000\n".toList) = .ok ":r0c5225A000" := by
    decide
  have data : Reply.checkData Command.readModel.text ":r0c5225A000" = .ok ":r0c5225A000" := by
    decide
  have named : Identity.ofReply ":r0c5225A000" = .ok ⟨"MHS-25A00", .integer 25000000⟩ := by
    decide
  exact ⟨_, _, _, _, _, rfl, .answered rfl ⟨nofun, _, decoded, data⟩, decoded, named⟩

theorem Fruitless.of_no_opening (closed : ∀ call ∈ calls, ¬ call.Opens) : Fruitless calls := by
  rintro before name port rest rfl
  exact absurd ⟨port, rfl⟩ (closed (.opened name (.ok port)) List.mem_append_cons_self)

theorem Fruitless.append (first : Fruitless calls) (last : Fruitless rest) :
    Fruitless (calls ++ rest) := by
  intro before name port after split
  rcases List.append_eq_append_iff.mp split with ⟨between, rfl, inRest⟩ | ⟨between, rfl, inFirst⟩
  · exact last between name port after inRest
  · cases between with
    | nil => exact last [] name port after inFirst.symm
    | cons call between =>
      obtain ⟨rfl, rfl⟩ := List.cons.inj inFirst
      exact (first before name port between rfl).append rest

/-- What became of a transaction can be told from its calls, whatever comes after them. -/
theorem Transaction.Makes.unique {transaction : Transaction} {others later : List PortCall}
    {accepted other : Option (List UInt8)} (made : transaction.Makes port calls accepted)
    (again : transaction.Makes port others other) (same : calls ++ rest = others ++ later) :
    accepted = other := by
  cases made with
  | unwritten => cases again <;> simp_all
  | refused => cases again <;> simp_all
  | answered => cases again <;> simp_all

theorem Unidentified.of_unanswered (made : Command.readModel.transaction.Makes port calls none) :
    Unidentified port calls := by
  rintro later ⟨asked, rest, line, _, _, split, answered, _⟩
  cases made.unique answered split

theorem Unidentified.of_refused {line : List UInt8} {reply : String} {fault : Fault}
    (made : Command.readModel.transaction.Makes port calls (some line))
    (decoded : Reply.ofLine line = .ok reply) (refused : Identity.ofReply reply = .error fault) :
    Unidentified port calls := by
  rintro later ⟨asked, rest, other, text, identity, split, answered, again, named⟩
  cases made.unique answered split
  cases Except.ok.inj (decoded.symm.trans again)
  cases refused.symm.trans named

/-- A generator is asked for its model, and it is identified by its reply or not. -/
theorem Identity.identify_runs {steps : List Step} {ending : Outcome Identity}
    (run : (identify port).Runs steps ending) :
    (∃ identity, ending = .result identity ∧ Identifies port (portCalls steps) ∧
        Completes port [.command .readModel] (portCalls steps)) ∨
      ∃ fault, ending = .fault fault ∧ Unidentified port (portCalls steps) ∧
        ∀ call ∈ portCalls steps, call.Reaches port := by
  have settled : ∀ steps ending, (Exchange.query port Command.readModel.text).Runs steps ending →
      (∃ reply, ending = .result reply ∧ ∃ line,
          Command.readModel.transaction.Makes port (portCalls steps) (some line) ∧
            Reply.ofLine line = .ok reply) ∨
        ∃ fault, ending = .fault fault ∧
          Command.readModel.transaction.Makes port (portCalls steps) none := by
    intro steps ending run
    have ended := Exchange.query_runs run
    generalize portCalls steps = calls at ended ⊢
    cases ended with
    | unencodable unframed => cases unframed
    | failed made => exact Or.inr ⟨_, rfl, made⟩
    | answered made given => exact Or.inl ⟨_, rfl, _, made, given.1⟩
  rcases run.of_settled_bind settled with ⟨reply, first, rest, rfl, ⟨line, made, decoded⟩, judged⟩ |
    ⟨fault, rfl, made⟩
  · cases named : Identity.ofReply reply with
    | ok identity =>
      rw [named] at judged
      obtain ⟨rfl, rfl⟩ := Program.Runs.of_result judged
      rw [List.append_nil]
      refine Or.inl ⟨identity, rfl, ?_, .single ⟨_, .command, made, fun _ _ => trivial⟩⟩
      exact ⟨_, [], line, reply, identity, (List.append_nil _).symm, made, decoded, named⟩
    | error fault =>
      rw [named] at judged
      obtain ⟨rfl, rfl⟩ := Program.Runs.of_fail judged
      rw [List.append_nil]
      exact Or.inr ⟨fault, rfl, .of_refused made decoded named, made.linesOn.2⟩
  · exact Or.inr ⟨fault, rfl, .of_unanswered made, made.linesOn.2⟩

theorem PortCall.Reaches.not_opens {call : PortCall} (reaches : call.Reaches port) : ¬ call.Opens := by
  cases call <;> simp_all [PortCall.Reaches, PortCall.Opens]

/-- A port that was opened in vain. -/
theorem Fruitless.opened {name : Given String} (none : Unidentified port rest)
    (closed : ∀ call ∈ rest, ¬ call.Opens) : Fruitless (.opened name (.ok port) :: rest) := by
  intro before other target after split
  cases before with
  | nil =>
    obtain ⟨same, rfl⟩ := List.cons.inj split
    cases same
    exact none
  | cons call before =>
    obtain ⟨_, rfl⟩ := List.cons.inj split
    exact absurd ⟨target, rfl⟩ (closed (.opened other (.ok target)) List.mem_append_cons_self)

end

/-- How a single try to open a generator goes. A port on which no generator is identified is closed again,
but an interrupt passes by. -/
inductive Tries (name : Given String) : List PortCall → Outcome Generator → Prop
  | refused {fault} : Tries name [.opened name (.error fault)] (.fault fault)
  | interrupted {port asked fault} : fault.isOf .ordinary = false → Unidentified port asked →
      (∀ call ∈ asked, call.Reaches port) →
      Tries name (.opened name (.ok port) :: asked) (.fault fault)
  | released {port asked fault} : fault.isOf .ordinary = true → Unidentified port asked →
      (∀ call ∈ asked, call.Reaches port) →
      Tries name (.opened name (.ok port) :: (asked ++ [.closed port])) (.fault fault)
  | found {generator asked} : Identifies generator.port asked →
      Completes generator.port [.command .readModel] asked →
      Tries name (.opened name (.ok generator.port) :: asked) (.result generator)

theorem Generator.openOn_tries {name : Given String} {baudRate : Given Int} {steps : List Step}
    {ending : Outcome Generator} (run : (openOn name baudRate).Runs steps ending) :
    Tries name (portCalls steps) ending := by
  unfold openOn at run
  obtain ⟨_, _, rfl, opening⟩ := run.of_ask
  obtain ⟨answer, rest, rfl, asking⟩ := opening.of_ask
  rcases answer with fault | port
  · obtain ⟨rfl, rfl⟩ := Program.Runs.of_fail asking
    exact .refused
  · change Tries name (.opened name (.ok port) :: portCalls rest) ending
    have tried : ((Identity.identify port).attempt.bind _).Runs rest ending := asking
    rcases tried.of_attempt_bind with ⟨outcome, first, last, rfl, asked, judged⟩ | ⟨stuck, _⟩
    · rw [portCalls_append]
      rcases Identity.identify_runs asked with ⟨identity, same, identifies, whole⟩ |
        ⟨fault, same, unidentified, reaches⟩
      · cases Outcome.ofExcept_eq_result.mp same
        obtain ⟨_, _, rfl, ended⟩ := judged.of_ask
        obtain ⟨rfl, rfl⟩ := ended.of_result
        rw [show portCalls [_] = [] from rfl, List.append_nil]
        exact @Tries.found name ⟨port, identity⟩ _ identifies whole
      · cases Outcome.ofExcept_eq_fault.mp same
        simp only at judged
        split at judged
        · rename_i ordinary
          obtain ⟨_, _, rfl, ended⟩ := judged.of_ask
          obtain ⟨rfl, rfl⟩ := ended.of_fail
          exact .released ordinary unidentified reaches
        · rename_i interrupt
          obtain ⟨rfl, rfl⟩ := judged.of_fail
          rw [portCalls_nil, List.append_nil]
          exact .interrupted (Bool.eq_false_iff.mpr interrupt) unidentified reaches
    · rcases Identity.identify_runs stuck with ⟨_, same, _⟩ | ⟨_, same, _⟩ <;> cases same

/-- How the opening of a generator goes: it is found by the last of the openings, or nowhere. -/
inductive Obtains : List PortCall → Outcome Generator → Prop
  | found {early name generator asked} : Fruitless early → Identifies generator.port asked →
      Completes generator.port [.command .readModel] asked →
      Obtains (early ++ .opened name (.ok generator.port) :: asked) (.result generator)
  | nowhere {calls fault} : Fruitless calls → Obtains calls (.fault fault)

theorem Obtains.after {early calls : List PortCall} {ending : Outcome Generator}
    (obtains : Obtains calls ending) (vain : Fruitless early) : Obtains (early ++ calls) ending := by
  cases obtains with
  | found none identifies whole =>
    rw [← List.append_assoc]
    exact .found (vain.append none) identifies whole
  | nowhere none => exact .nowhere (vain.append none)

theorem Tries.obtains {name : Given String} {calls : List PortCall} {ending : Outcome Generator}
    (tries : Tries name calls ending) : Obtains calls ending := by
  cases tries with
  | refused =>
    refine .nowhere (.of_no_opening fun call member => ?_)
    cases List.mem_singleton.mp member
    rintro ⟨_, ⟨⟩⟩
  | interrupted _ unidentified reaches =>
    exact .nowhere (.opened unidentified fun call member => (reaches call member).not_opens)
  | released _ unidentified reaches =>
    refine .nowhere (.opened (unidentified.append _) (List.forall_mem_append.mpr
      ⟨fun call member => (reaches call member).not_opens, ?_⟩))
    simp [PortCall.Opens]
  | found identifies whole =>
    have none : Fruitless [] := .of_no_opening (List.forall_mem_nil _)
    exact .found none identifies whole

theorem Generator.openOn_runs {name : Given String} {baudRate : Given Int} {steps : List Step}
    {ending : Outcome Generator} (run : (openOn name baudRate).Runs steps ending) :
    Obtains (portCalls steps) ending := (openOn_tries run).obtains

theorem attempt_ofExcept {α : Type} (program : Program α) :
    program.attempt.bind Program.ofExcept = program :=
  (Program.bind_attempt _ _ fun _ => rfl).trans (Program.bind_result program)

theorem Obtains.finished {calls : List PortCall} : ¬ Obtains calls .unfinished := nofun

theorem Obtains.fruitless {calls : List PortCall} {fault : Fault}
    (obtains : Obtains calls (.fault fault)) : Fruitless calls := by
  cases obtains with
  | nowhere none => exact none

/-- Induction on the calls that may follow. Each of them comes after openings that were in vain. -/
theorem RetryPolicy.repeating_runs {policy : RetryPolicy} {name : Given String} {baudRate : Given Int}
    {longest : Number} {message : String} (further : Nat) {steps : List Step}
    {ending : Outcome Generator}
    (run : ((policy.repeating (Generator.openOn name baudRate).attempt
      ((Program.info message).bind fun _ => Program.pauseAtMost longest) further).bind
        Program.ofExcept).Runs steps ending) : Obtains (portCalls steps) ending := by
  induction further generalizing steps with
  | zero =>
    rw [repeating, attempt_ofExcept] at run
    exact Generator.openOn_runs run
  | succ further ih =>
    rw [repeating, Program.bind_eq, Program.bind_assoc] at run
    rcases run.of_attempt_bind with ⟨outcome, first, rest, rfl, opening, continued⟩ | ⟨stuck, rfl⟩
    · have tried := Generator.openOn_runs opening
      rw [portCalls_append]
      rcases outcome with fault | generator
      · have vain := Obtains.fruitless tried
        refine Obtains.after ?_ vain
        simp only at continued
        split at continued
        · obtain ⟨_, _, rfl, paused⟩ := continued.of_ask
          obtain ⟨answer, last, rfl, again⟩ := paused.of_ask
          rcases answer with interrupt | _
          · obtain ⟨rfl, rfl⟩ := Program.Runs.of_fail again
            exact .nowhere (.of_no_opening (List.forall_mem_nil _))
          · change Obtains (portCalls last) ending
            exact ih again
        · obtain ⟨rfl, rfl⟩ := Program.Runs.of_fail continued
          exact .nowhere (.of_no_opening (List.forall_mem_nil _))
      · obtain ⟨rfl, rfl⟩ := Program.Runs.of_result continued
        rw [portCalls_nil, List.append_nil]
        exact tried
    · exact absurd (Generator.openOn_runs stuck) Obtains.finished

/-- A generator that is obtained is the one of the last opening. -/
theorem Acquisition.openPersistently_runs {name : Given String} {baudRate : Given Int}
    {steps : List Step} {ending : Outcome Generator}
    (run : (openPersistently name baudRate).Runs steps ending) : Obtains (portCalls steps) ending :=
  RetryPolicy.repeating_runs _ run

/-- Where a generator was obtained, no other place among the calls is one where a generator is
identified. -/
theorem Fruitless.unique {early before calls later : List PortCall} {name other : Given String}
    {port target : Port} (vain : Fruitless early) (closed : ∀ call ∈ later, ¬ call.Opens)
    (identifies : Identifies target calls)
    (split : early ++ .opened name (.ok port) :: later = before ++ .opened other (.ok target) :: calls) :
    target = port ∧ calls = later := by
  rcases List.append_eq_append_iff.mp split with ⟨between, rfl, inLater⟩ | ⟨between, rfl, inEarly⟩
  · cases between with
    | nil =>
      obtain ⟨same, rfl⟩ := List.cons.inj inLater
      cases same
      exact ⟨rfl, rfl⟩
    | cons call between =>
      obtain ⟨_, rfl⟩ := List.cons.inj inLater
      exact absurd ⟨target, rfl⟩ (closed (.opened other (.ok target)) List.mem_append_cons_self)
  · cases between with
    | nil =>
      obtain ⟨same, rfl⟩ := List.cons.inj inEarly
      cases same
      exact ⟨rfl, rfl⟩
    | cons call between =>
      obtain ⟨rfl, rfl⟩ := List.cons.inj inEarly
      exact absurd identifies (vain before other target between rfl _)

end SignalGenerator
