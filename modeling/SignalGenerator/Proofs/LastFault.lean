import SignalGenerator.Proofs.Shutdown

/-!
Which fault an acquisition ends with. The counter is turned off and the port is closed after the
acquisition proper, so a fault that ended it is what the caller sees exactly when turning the counter off
brings up no other fault.
-/

namespace SignalGenerator

/-- Turning the counter on or off fails exactly when the line for it is not acknowledged. -/
theorem Counter.enable_settles {port : Port} {enabled : Bool} {steps : List Step} {ending : Outcome Unit}
    (run : (enable port enabled).Runs steps ending) :
    (ending = .result () ∧ ∃ reply,
        (Command.enableCounter enabled).transaction.Makes port (portCalls steps) (some reply)) ∨
      ∃ fault, ending = .fault fault ∧
        (Command.enableCounter enabled).transaction.Makes port (portCalls steps) none := by
  have ended := Exchange.order_runs run
  generalize portCalls steps = calls at ended ⊢
  cases ended with
  | unencodable unframed => cases enabled <;> cases unframed
  | failed made => exact Or.inr ⟨_, rfl, made⟩
  | answered made _ => exact Or.inl ⟨rfl, _, made⟩

/-- What it comes to that the counter is turned off at the end, with the calls for it. Without a sampler
there is nothing to turn off. -/
inductive Stopping (port : Port) : Option Sampler → List PortCall → Except Fault Unit → Prop
  | spared : Stopping port none [] (.ok ())
  | acknowledged {sampler calls reply} :
      (Command.enableCounter false).transaction.Makes port calls (some reply) →
      Stopping port (some sampler) calls (.ok ())
  | failed {sampler calls fault} : (Command.enableCounter false).transaction.Makes port calls none →
      Stopping port (some sampler) calls (.error fault)

theorem Sampler.stop_settles {sampler : Sampler} {steps : List Step}
    {ending : Outcome (Sampler × Except Fault Unit)} (run : sampler.stop.Runs steps ending) :
    ∃ after stopped, ending = .result (after, stopped) ∧
      Stopping sampler.generator.port (some sampler) (portCalls steps) stopped := by
  rcases Program.Runs.of_attempt_bind run with ⟨outcome, first, rest, rfl, stopping, continued⟩ |
    ⟨stuck, _⟩
  · rw [portCalls_append]
    rcases outcome with fault | _
    · obtain ⟨rfl, rfl⟩ := Program.Runs.of_result continued
      rw [portCalls_nil, List.append_nil]
      rcases Counter.enable_settles stopping with ⟨same, _⟩ | ⟨_, _, made⟩
      · cases same
      · exact ⟨_, .error fault, rfl, .failed made⟩
    · obtain ⟨_, _, rfl, logged⟩ := continued.of_ask
      obtain ⟨rfl, rfl⟩ := logged.of_result
      rw [show portCalls [_] = [] from rfl, List.append_nil]
      rcases Counter.enable_settles stopping with ⟨_, _, made⟩ | ⟨_, same, _⟩
      · exact ⟨_, .ok (), rfl, .acknowledged made⟩
      · cases same
  · rcases Counter.enable_settles stuck with ⟨same, _⟩ | ⟨_, same, _⟩ <;> cases same

namespace Acquisition

/-- Shutting down ends like the turning off of the counter does, and it closes the port either way. -/
theorem shutDown_settles {generator : Generator} {sampler : Option Sampler}
    (own : ∀ given ∈ sampler, given.generator.port = generator.port) {steps : List Step}
    {ending : Outcome Unit} (run : (shutDown generator sampler).Runs steps ending) :
    ∃ stopping stopped, portCalls steps = stopping ++ [.closed generator.port] ∧
      Stopping generator.port sampler stopping stopped ∧ ending = .ofExcept stopped := by
  cases sampler with
  | none =>
    obtain ⟨closed, rfl⟩ := close_runs run
    exact ⟨[], .ok (), closed, .spared, rfl⟩
  | some sampler =>
    obtain ⟨_, _, rfl, shown⟩ := run.of_ask
    obtain ⟨_, stopped, first, rest, rfl, stops, closing⟩ :=
      Program.Runs.of_stateful_bind (fun _ _ => Sampler.stop_settles) shown
    obtain ⟨closed, rfl⟩ := close_runs closing
    refine ⟨portCalls first, stopped, ?_, own sampler rfl ▸ stops, rfl⟩
    rw [← closed, ← portCalls_append]
    rfl

/-- The sampler of an acquisition is one for its generator. -/
theorem Acquires.own {arguments : Arguments} {port : Port} {channel : Int} {calls : List PortCall}
    {sampler : Option Sampler} {outcome : Except Fault Unit}
    (acquires : Acquires arguments port channel calls (.result (sampler, outcome))) :
    ∀ given ∈ sampler, given.generator.port = port := by
  cases acquires with
  | unprepared => exact fun given member => absurd member (Option.not_mem_none given)
  | counting _ _ _ _ own =>
    intro given member
    rwa [← Option.mem_some.mp member]

/-- After the acquisition proper the counter is turned off, and what that comes to goes before the outcome
that there was. -/
theorem proceed_settles {turns : Nat} {generator : Generator} {configuration : Configuration}
    {steps : List Step} {ending : Outcome Unit} (ended : ending ≠ .unfinished)
    (run : (proceed turns configuration generator).Runs steps ending) :
    ∃ body late sampler outcome stopping stopped, steps = body ++ late ∧
      (acquire turns generator configuration).Runs body (.result (sampler, outcome)) ∧
      portCalls late = stopping ++ [.closed generator.port] ∧
      Stopping generator.port sampler stopping stopped ∧
      ending = .ofExcept (stopped.bind fun _ => outcome) := by
  obtain ⟨channel, chosen⟩ := exists_chosen configuration.arguments
  rcases run.of_bind with ⟨⟨sampler, outcome⟩, body, late, rfl, acquired, concluding⟩ |
    ⟨_, stopped, _⟩ | ⟨_, rfl⟩
  · have own := (acquire_runs chosen acquired).own
    rcases Program.Runs.of_bind concluding with ⟨_, said, last, rfl, announced, closing⟩ |
      ⟨_, stopped, _⟩ | ⟨stuck, _⟩
    · rcases closing.of_bind_ofExcept with ⟨first, shutting, rfl⟩ | stuck
      · obtain ⟨stopping, stopped, closed, stops, same⟩ := shutDown_settles own shutting
        cases Outcome.ofExcept_inj same
        refine ⟨body, said ++ last, sampler, outcome, stopping, first, rfl, acquired, ?_, stops, rfl⟩
        rw [portCalls_append, (announce_runs announced).1, List.nil_append, closed]
      · obtain ⟨_, stopped, _, _, same⟩ := shutDown_settles own stuck
        cases stopped <;> cases same
    · cases (announce_runs stopped).2
    · cases (announce_runs stuck).2
  · exact absurd (acquire_runs chosen stopped) Acquires.returns
  · exact absurd rfl ended

/-- A run comes to its end without a generator, or it obtains one and proceeds with it. -/
theorem run_splits {turns : Nat} {commandLine : List String} {steps : List Step} {ending : Outcome Unit}
    (run : (Acquisition.run turns commandLine).Runs steps ending) :
    Fruitless (portCalls steps) ∨ ∃ start configuration generator early rest,
      Configuration.ofCommandLine commandLine start = .ok configuration ∧ steps = early ++ rest ∧
      Obtains (portCalls early) (.result generator) ∧
      (proceed turns configuration generator).Runs rest ending := by
  rcases run_parts run with ⟨silent, _⟩ | ⟨start, configuration, rest, rfl, accepted, going⟩
  · rw [silent]
    exact Or.inl (.of_no_opening (List.forall_mem_nil _))
  · rcases going.of_bind with ⟨generator, early, late, rfl, found, proceeding⟩ | ⟨fault, failed, rfl⟩ | ⟨stuck, _⟩
    · have obtains : Obtains (portCalls early) (.result generator) := reach_obtains found
      exact Or.inr ⟨start, configuration, generator, _ :: early, late, accepted, rfl, obtains, proceeding⟩
    · have vain : Fruitless (portCalls rest) := Obtains.fruitless (reach_obtains failed)
      exact Or.inl vain
    · exact absurd (reach_obtains stuck) Obtains.finished

/-- However an acquisition ended, what turning the counter off comes to goes before its outcome: a fault
that ended it is the one that the caller sees exactly when the counter did not have to be turned off, or
the line for it was acknowledged, or this failed with the same fault. The port is closed in any case. -/
theorem fault_kept_iff {turns : Nat} {commandLine : List String} {steps : List Step}
    {ending : Outcome Unit} (run : (Acquisition.run turns commandLine).Runs steps ending)
    (ended : ending ≠ .unfinished) {before calls : List PortCall} {name : Given String} {port : Port}
    (split : portCalls steps = before ++ .opened name (.ok port) :: calls)
    (identifies : Identifies port calls) :
    ∃ start configuration identity early body late sampler outcome stopping stopped,
      Configuration.ofCommandLine commandLine start = .ok configuration ∧
      steps = early ++ (body ++ late) ∧
      (acquire turns ⟨port, identity⟩ configuration).Runs body (.result (sampler, outcome)) ∧
      portCalls late = stopping ++ [.closed port] ∧ Stopping port sampler stopping stopped ∧
      ending = .ofExcept (stopped.bind fun _ => outcome) ∧
      ∀ fault, outcome = .error fault →
        (ending = .fault fault ↔ stopped = .ok () ∨ stopped = .error fault) := by
  rcases run_splits run with vain | ⟨start, configuration, generator, early, rest, accepted, rfl,
    obtains, going⟩
  · have none := vain before name port calls split
    exact absurd identifies (List.append_nil calls ▸ none [])
  · obtain ⟨channel, chosen⟩ := exists_chosen configuration.arguments
    have course : Course configuration.arguments generator.port channel (portCalls rest) ending :=
      acquire_bind_runs chosen going
    have own : generator.port = port := by
      rw [portCalls_append] at split
      generalize portCalls early = opening at obtains split
      cases obtains with
      | @found vain name _ asked none _ whole =>
        have quiet : ∀ call ∈ asked ++ portCalls rest, ¬ call.Opens := by
          refine List.forall_mem_append.mpr ⟨fun call member => ?_, course.not_opens⟩
          exact (whole.begins.reaches call member).not_opens
        rw [List.append_assoc, List.cons_append] at split
        exact (none.unique quiet identifies split).1.symm
    subst own
    obtain ⟨body, late, sampler, outcome, stopping, stopped, rfl, acquired, closed, stops, rfl⟩ :=
      proceed_settles ended going
    refine ⟨start, configuration, generator.identity, early, body, late, sampler, outcome, stopping,
      stopped, accepted, rfl, acquired, closed, stops, rfl, ?_⟩
    rintro fault rfl
    rw [Outcome.ofExcept_eq_fault]
    cases stopped with
    | ok _ => exact ⟨fun _ => Or.inl rfl, fun _ => rfl⟩
    | error other => exact ⟨Or.inr, fun either => either.resolve_left nofun⟩

/-- A reading of the counter is cut short, and the line that turns the counter off is acknowledged. -/
theorem fault_kept_iff_acknowledged :
    let commandLine := ["--limit-samples", "1"]
    let replies := [":r0c5225A000\n", ":r1w5\n", ":r1f100\n", ":r1y1\n", ":r1a500\n", "ok\n", "ok\n",
      "ok\n", "late\n", "ok\n"]
    let steps := (Acquisition.run 3 commandLine).stepsIn Bench.recording (.offering replies [])
    let port : Port := ⟨0, "/dev/ttyUSB0"⟩
    let calls := (portCalls steps).tail
    let fault : Fault := .noValue ":r0e" "late"
    (Acquisition.run 3 commandLine).Runs steps (.fault fault) ∧
      portCalls steps = [] ++ .opened (.value "/dev/ttyUSB0") (.ok port) :: calls ∧
      Identifies port calls ∧
      ∃ configuration identity body late sampler outcome stopping stopped,
        (acquire 3 ⟨port, identity⟩ configuration).Runs body (.result (sampler, outcome)) ∧
        portCalls late = stopping ++ [.closed port] ∧ Stopping port sampler stopping stopped ∧
        .fault fault = Outcome.ofExcept (stopped.bind fun _ => outcome) := by
  intro commandLine replies steps port calls fault
  have ended : ((Acquisition.run 3 commandLine).runIn Bench.recording (.offering replies [])).1 =
      .fault fault := by decide +kernel
  have run := Program.runs_runIn Bench.recording (Acquisition.run 3 commandLine) (.offering replies [])
  rw [ended] at run
  have split : portCalls steps = [] ++ .opened (.value "/dev/ttyUSB0") (.ok port) :: calls := by
    decide +kernel
  have asked : calls = [.wrote port (asciiBytes ":r0c\n".toList) (.ok 5),
      .read port (.ok (asciiBytes ":r0c5225A000\n".toList))] ++ calls.drop 2 := by decide +kernel
  have identifies : Identifies port calls := by
    rw [asked]
    exact identifies_bench port _
  obtain ⟨_, configuration, identity, _, body, late, sampler, outcome, stopping, stopped, _, _, acquired,
    closed, stops, same, _⟩ := fault_kept_iff run nofun split identifies
  exact ⟨run, split, identifies, configuration, identity, body, late, sampler, outcome, stopping, stopped,
    acquired, closed, stops, same⟩

/-- A reading of the counter is cut short, and then the line that turns the counter off cannot be written.
The acquisition proper ends with the first of these faults, and the run with the second one. -/
theorem fault_replaced :
    let commandLine := ["--limit-samples", "1"]
    let replies := [":r0c5225A000\n", ":r1w5\n", ":r1f100\n", ":r1y1\n", ":r1a500\n", "ok\n", "ok\n",
      "ok\n", "late\n"]
    let writes := List.replicate 9 .complete ++ [.fault (.external .serial "gone")]
    let bench := Bench.offering replies writes
    let acquiring : Program (Except Fault Unit) := do
      let configuration ← Program.ofExcept (Configuration.ofCommandLine commandLine (← Program.now))
      Program.info s!"Logging counter samples to {configuration.samplePath}"
      let generator ← openPersistently configuration.arguments.port configuration.arguments.baudRate
      return (← acquire 3 generator configuration).2
    (acquiring.runIn Bench.recording bench).1 = .result (.error (.noValue ":r0e" "late")) ∧
      ((Acquisition.run 3 commandLine).runIn Bench.recording bench).1 =
        .fault (.sendFailed ":s6b0" "gone") := by
  decide +kernel

end Acquisition

end SignalGenerator
