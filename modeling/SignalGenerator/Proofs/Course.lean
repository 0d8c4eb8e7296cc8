import SignalGenerator.Proofs.Setup

/-!
The course of an acquisition. A generator that was obtained is set up and counts until the acquisition is
complete or fails; then the counter is turned off, if it came to turning it on, and the port is closed.
-/

namespace SignalGenerator

open Program (Sends)

/-- The command for the counter is always written. -/
theorem Counter.enable_runs {port : Port} {enabled : Bool} {steps : List Step} {ending : Outcome Unit}
    (run : (enable port enabled).Runs steps ending) :
    ∃ outcome accepted, ending = .ofExcept outcome ∧
      (Command.enableCounter enabled).transaction.Makes port (portCalls steps) accepted := by
  have ended := Exchange.order_runs run
  generalize portCalls steps = calls at ended ⊢
  cases ended with
  | unencodable unframed => cases enabled <;> cases unframed
  | failed made => exact ⟨.error _, _, rfl, made⟩
  | answered made _ => exact ⟨.ok _, _, rfl, made⟩

/-- Whatever comes after the command for the counter, that command is written. -/
theorem Counter.enable_bind_lines {β : Type} {port : Port} {enabled : Bool} {next : Unit → Program β}
    {steps : List Step} {ending : Outcome β} (run : ((enable port enabled).bind next).Runs steps ending) :
    linesOn port (portCalls steps) ≠ [] := by
  have settled : ∀ steps ending, (enable port enabled).Runs steps ending →
      (∃ value, ending = .result value ∧ linesOn port (portCalls steps) ≠ []) ∨
        ∃ fault, ending = .fault fault ∧ linesOn port (portCalls steps) ≠ [] := by
    intro steps ending run
    obtain ⟨outcome, accepted, rfl, made⟩ := enable_runs run
    obtain ⟨⟨line, lines, _⟩, _⟩ := made.linesOn
    rw [lines]
    cases outcome with
    | ok value => exact Or.inl ⟨value, rfl, List.cons_ne_nil _ _⟩
    | error fault => exact Or.inr ⟨fault, rfl, List.cons_ne_nil _ _⟩
  rcases run.of_settled_bind settled with ⟨_, first, rest, rfl, written, _⟩ | ⟨_, _, written⟩
  · rw [portCalls_append, linesOn_append]
    exact List.append_ne_nil_of_left_ne_nil written _
  · exact written

namespace Sampler

open Acquisition

variable {port : Port} {steps : List Step} {sink : Sample → Program Unit}

/-- Starting writes at least the first line of its plan. -/
theorem start_runs {sampler : Sampler} {ending : Outcome (Sampler × Except Fault Unit)}
    (run : sampler.start.Runs steps ending) :
    ∃ after outcome, ending = .result (after, outcome) ∧ after.generator = sampler.generator ∧
      (outcome = .ok () → after.completed = false) ∧
      Progress sampler.generator.port startPlan (portCalls steps) outcome ∧
      linesOn sampler.generator.port (portCalls steps) ≠ [] := by
  have enables : (sampler.generator.enableCounter true).Sends sampler.generator.port
      [.command (.enableCounter true)] := Setting.write_sends rfl
  have selects : (sampler.generator.selectFunction .frequency).Sends sampler.generator.port
      [.command (.selectFunction .frequency)] := Setting.write_sends rfl
  have sends := enables.bind fun _ => selects
  obtain ⟨outcome, first, rest, rfl, begun, progress, continued⟩ := sends.attempt_bind_runs run
  have written := Counter.enable_bind_lines begun
  rcases outcome with fault | _
  · obtain ⟨rfl, rfl⟩ := Program.Runs.of_result continued
    rw [List.append_nil]
    exact ⟨sampler, .error fault, rfl, rfl, nofun, progress, written⟩
  · obtain ⟨time, _, rfl, timed⟩ := continued.of_ask
    obtain ⟨_, _, rfl, logged⟩ := timed.of_ask
    obtain ⟨rfl, rfl⟩ := logged.of_result
    rw [portCalls_append, show portCalls [_, _] = [] from rfl, List.append_nil]
    exact ⟨_, .ok (), rfl, rfl, fun _ => rfl, progress, written⟩

/-- Stopping is one exchange, whatever comes of it. -/
theorem stop_runs {sampler : Sampler} {ending : Outcome (Sampler × Except Fault Unit)}
    (run : sampler.stop.Runs steps ending) :
    ∃ after outcome, ending = .result (after, outcome) ∧ ∃ accepted,
      (Command.enableCounter false).transaction.Makes sampler.generator.port (portCalls steps)
        accepted := by
  rcases Program.Runs.of_attempt_bind run with ⟨outcome, first, rest, rfl, stopping, continued⟩ |
    ⟨stuck, _⟩
  · obtain ⟨_, accepted, _, made⟩ := Counter.enable_runs stopping
    rcases outcome with fault | _
    · obtain ⟨rfl, rfl⟩ := Program.Runs.of_result continued
      rw [List.append_nil]
      exact ⟨_, .error fault, rfl, accepted, made⟩
    · obtain ⟨_, _, rfl, logged⟩ := continued.of_ask
      obtain ⟨rfl, rfl⟩ := logged.of_result
      rw [portCalls_append, show portCalls [_] = [] from rfl, List.append_nil]
      exact ⟨_, .ok (), rfl, accepted, made⟩
  · obtain ⟨outcome, _, same, _⟩ := Counter.enable_runs stuck
    cases outcome <;> cases same

/-- One poll, and what is left of it where it fails. -/
theorem poll_runs {sampler : Sampler} {ending : Outcome (Sampler × Except Fault (List Sample))}
    (silent : ∀ port sample, (sink sample).Sends port []) (run : (sampler.poll sink).Runs steps ending) :
    ∃ after outcome, ending = .result (after, outcome) ∧ after.generator = sampler.generator ∧
      Progress sampler.generator.port roundPlan (portCalls steps) outcome := by
  unfold poll at run
  split at run
  · obtain ⟨rfl, rfl⟩ := Program.Runs.of_result run
    exact ⟨sampler, _, rfl, rfl, .nil⟩
  · have measures : (measureEach sampler.generator CounterFunction.pollingOrder).Sends
        sampler.generator.port roundPlan := measureEach_sends _
    have sends := measures.bind_silent fun samples =>
      (deliverEach_sends (silent _) samples).silent_bind fun _ => .result samples
    obtain ⟨outcome, first, rest, rfl, _, progress, continued⟩ := sends.attempt_bind_runs run
    rcases outcome with fault | samples
    · obtain ⟨rfl, rfl⟩ := Program.Runs.of_result continued
      rw [List.append_nil]
      exact ⟨sampler, .error fault, rfl, rfl, progress⟩
    · have limits : ∀ counted : Sampler, counted.limitReached.Sends sampler.generator.port [] :=
        limitReached_sends
      obtain ⟨reached, second, last, rfl, _, limited, judged⟩ := (limits _).attempt_bind_runs continued
      have whole : Completes sampler.generator.port roundPlan (portCalls (first ++ second)) := by
        rw [portCalls_append, limited.begins.of_nil, List.append_nil]
        exact progress
      rw [← List.append_assoc]
      rcases reached with fault | _ | _
      · obtain ⟨rfl, rfl⟩ := Program.Runs.of_result judged
        rw [List.append_nil]
        exact ⟨_, .error fault, rfl, rfl, whole.begins⟩
      · obtain ⟨rfl, rfl⟩ := Program.Runs.of_result judged
        rw [List.append_nil]
        exact ⟨_, .ok samples, rfl, rfl, whole⟩
      · obtain ⟨_, _, rfl, logged⟩ := judged.of_ask
        obtain ⟨rfl, rfl⟩ := logged.of_result
        rw [portCalls_append, show portCalls [_] = [] from rfl, List.append_nil]
        exact ⟨_, .ok samples, rfl, rfl, whole⟩

end Sampler

namespace Acquisition

variable {port : Port}

/-- How polling can go and end: so many polls were begun. It only ends well after a poll, or where there was
nothing left to do. -/
inductive Polls (port : Port) (completed : Bool) (rounds : Nat) (calls : List PortCall) :
    Outcome (Sampler × Except Fault Unit) → Prop
  | ended {sampler outcome} : sampler.generator.port = port →
      Progress port (pollingPlan rounds) calls outcome →
      (outcome = .ok () → completed = true ∨ 0 < rounds) →
      Polls port completed rounds calls (.result (sampler, outcome))
  | unfinished : Begins port (pollingPlan rounds) calls → Polls port completed rounds calls .unfinished

/-- Polling goes on after a poll. -/
theorem Polls.next {completed before : Bool} {rounds : Nat} {first calls : List PortCall}
    {ending : Outcome (Sampler × Except Fault Unit)} (polls : Polls port completed rounds calls ending)
    (whole : Completes port roundPlan first) :
    Polls port before (rounds + 1) (first ++ calls) ending := by
  cases polls with
  | ended same progress _ =>
    refine .ended same ?_ fun _ => Or.inr (Nat.succ_pos rounds)
    rw [pollingPlan_succ]
    exact progress.after whole
  | unfinished begun =>
    refine .unfinished ?_
    rw [pollingPlan_succ]
    exact whole.append_begins begun

theorem Polls.failed {completed : Bool} {rounds : Nat} {calls : List PortCall} {sampler : Sampler}
    {fault : Fault} (same : sampler.generator.port = port)
    (begun : Begins port (pollingPlan rounds) calls) :
    Polls port completed rounds calls (.result (sampler, .error fault)) :=
  .ended same begun nofun

/-- Nothing is left to do where the acquisition is complete. -/
theorem Polls.already {sampler : Sampler} (completed : sampler.completed = true) :
    Polls sampler.generator.port sampler.completed 0 [] (.result (sampler, .ok ())) :=
  .ended rfl .nil fun _ => Or.inl completed

theorem waitOrAdvance_sends (interval : Number) (due : Instant) :
    (Schedule.waitOrAdvance interval due).Sends port [] := by
  refine Sends.now.silent_bind fun time => ?_
  split
  · exact Sends.silent_bind (.ask (fun _ => rfl) fun _ => .ofExcept _) fun _ => .result none
  · exact .ofExcept_bind fun next => .result (some next)

/-- Induction on the turns. A turn polls or waits, and after a failure there is none. -/
theorem pollUntilComplete_runs {interval : Number} {sink : Sample → Program Unit}
    (silent : ∀ port sample, (sink sample).Sends port []) (turns : Nat) {due : Instant}
    {sampler : Sampler} {steps : List Step} {ending : Outcome (Sampler × Except Fault Unit)}
    (run : (Schedule.pollUntilComplete interval sink turns due sampler).Runs steps ending) :
    ∃ rounds, Polls sampler.generator.port sampler.completed rounds (portCalls steps) ending := by
  induction turns generalizing due sampler steps with
  | zero =>
    unfold Schedule.pollUntilComplete at run
    split at run
    · rename_i completed
      obtain ⟨rfl, rfl⟩ := run.of_result
      exact ⟨0, .already completed⟩
    · cases run
      exact ⟨0, .unfinished .nil⟩
  | succ turns ih =>
    unfold Schedule.pollUntilComplete at run
    split at run
    · rename_i completed
      obtain ⟨rfl, rfl⟩ := run.of_result
      exact ⟨0, .already completed⟩
    · have waiting : (Schedule.waitOrAdvance interval due).Sends sampler.generator.port [] :=
        waitOrAdvance_sends interval due
      obtain ⟨outcome, first, rest, rfl, _, waited, continued⟩ := waiting.attempt_bind_runs run
      rw [portCalls_append, waited.begins.of_nil, List.nil_append]
      rcases outcome with fault | _ | next
      · obtain ⟨rfl, rfl⟩ := Program.Runs.of_result continued
        exact ⟨0, .failed rfl .nil⟩
      · exact ih continued
      · obtain ⟨after, outcome, second, last, rfl, ⟨kept, progress⟩, polled⟩ :=
          Program.Runs.of_stateful_bind (fun _ _ => Sampler.poll_runs silent) continued
        rw [portCalls_append]
        rcases outcome with fault | samples
        · obtain ⟨rfl, rfl⟩ := Program.Runs.of_result polled
          rw [portCalls_nil, List.append_nil]
          exact ⟨1, .failed (kept ▸ rfl) progress⟩
        · obtain ⟨rounds, polls⟩ := ih polled
          rw [kept] at polls
          exact ⟨rounds + 1, polls.next progress⟩

/-- From the settings to the last poll. The sampler is there as soon as the counter may be on. -/
inductive Acquires (arguments : Arguments) (port : Port) (channel : Int) :
    List PortCall → Outcome (Option Sampler × Except Fault Unit) → Prop
  | unprepared {waveform calls fault} : Begins port (setupPlan arguments channel waveform) calls →
      Acquires arguments port channel calls (.result (none, .error fault))
  | counting {waveform setup rounds calls sampler outcome} :
      Completes port (setupPlan arguments channel waveform) setup →
      Progress port (countingPlan rounds) calls outcome → linesOn port calls ≠ [] →
      (outcome = .ok () → 0 < rounds) → sampler.generator.port = port →
      Acquires arguments port channel (setup ++ calls) (.result (some sampler, outcome))
  | unfinished {waveform setup rounds calls} :
      Completes port (setupPlan arguments channel waveform) setup →
      Begins port (countingPlan rounds) calls → linesOn port calls ≠ [] →
      Acquires arguments port channel (setup ++ calls) .unfinished

theorem pollOnSchedule_runs {turns : Nat} {configuration : Configuration} {sampler : Sampler}
    {steps : List Step} {ending : Outcome (Sampler × Except Fault Unit)}
    (run : (pollOnSchedule turns configuration sampler).Runs steps ending) :
    ∃ rounds, Polls sampler.generator.port sampler.completed rounds (portCalls steps) ending := by
  have beginning : ((Program.ofExcept (configuration.arguments.pollInterval.demand .pollInterval)).bind
      fun interval => Program.now.bind fun due => Program.result (interval, due)).Sends
        sampler.generator.port [] :=
    .ofExcept_bind fun _ => Sends.now.silent_bind fun _ => .result _
  obtain ⟨outcome, first, rest, rfl, _, begun, continued⟩ := beginning.attempt_bind_runs run
  rw [portCalls_append, begun.begins.of_nil, List.nil_append]
  rcases outcome with fault | ⟨interval, due⟩
  · obtain ⟨rfl, rfl⟩ := Program.Runs.of_result continued
    exact ⟨0, .failed rfl .nil⟩
  · exact pollUntilComplete_runs (fun _ => Recording.sample_sends _) turns continued

/-- From the start of the counter on. -/
theorem counting_runs {turns : Nat} {configuration : Configuration} {channel : Int} {sampler : Sampler}
    {waveform : Waveform} {setup calls : List PortCall}
    (whole : Completes port (setupPlan configuration.arguments channel waveform) setup)
    (starting : Completes port startPlan calls) (written : linesOn port calls ≠ [])
    (reset : sampler.completed = false) (own : sampler.generator.port = port) {steps : List Step}
    {ending : Outcome (Option Sampler × Except Fault Unit)}
    (run : ((pollOnSchedule turns configuration sampler).bind fun (sampler, outcome) =>
      Program.result (some sampler, outcome)).Runs steps ending) :
    Acquires configuration.arguments port channel (setup ++ (calls ++ portCalls steps)) ending := by
  have nonempty : ∀ rest, linesOn port (calls ++ rest) ≠ [] := by
    intro rest
    rw [linesOn_append]
    exact List.append_ne_nil_of_left_ne_nil written _
  rcases run.of_bind with ⟨_, polling, _, rfl, polled, concluded⟩ | ⟨_, stopped, _⟩ | ⟨stuck, rfl⟩
  · obtain ⟨rounds, polls⟩ := pollOnSchedule_runs polled
    obtain ⟨rfl, rfl⟩ := Program.Runs.of_result concluded
    rw [own, reset] at polls
    rw [List.append_nil]
    cases polls with
    | ended same progress complete =>
      refine .counting whole (progress.after starting) (nonempty _) (fun ok => ?_) same
      rcases complete ok with completed | positive
      · cases completed
      · exact positive
  · obtain ⟨_, polls⟩ := pollOnSchedule_runs stopped
    cases polls
  · obtain ⟨rounds, polls⟩ := pollOnSchedule_runs stuck
    rw [own] at polls
    cases polls with
    | unfinished begun => exact .unfinished whole (starting.append_begins begun) (nonempty _)

theorem acquire_runs {turns : Nat} {generator : Generator} {configuration : Configuration} {channel : Int}
    (chosen : Chosen configuration.arguments channel) {steps : List Step}
    {ending : Outcome (Option Sampler × Except Fault Unit)}
    (run : (acquire turns generator configuration).Runs steps ending) :
    Acquires configuration.arguments generator.port channel (portCalls steps) ending := by
  rcases Program.Runs.of_attempt_bind run with ⟨outcome, first, rest, rfl, prepared, continued⟩ |
    ⟨stuck, _⟩
  · obtain ⟨waveform, other, same, progress⟩ := prepare_learns chosen _ _ prepared
    cases Outcome.ofExcept_inj same
    rcases outcome with fault | sampler
    · obtain ⟨rfl, rfl⟩ := Program.Runs.of_result continued
      rw [List.append_nil]
      exact .unprepared progress
    · cases prepare_result prepared
      obtain ⟨after, outcome, second, last, rfl, ⟨kept, reset, starting, written⟩, started⟩ :=
        Program.Runs.of_stateful_bind (fun _ _ => Sampler.start_runs) continued
      rw [portCalls_append, portCalls_append]
      have own : after.generator.port = generator.port := congrArg Generator.port kept
      rcases outcome with fault | _
      · obtain ⟨rfl, rfl⟩ := Program.Runs.of_result started
        rw [portCalls_nil, List.append_nil]
        exact .counting progress (starting.append (pollingPlan 0)) written nofun own
      · exact counting_runs progress (own ▸ starting) (own ▸ written) (reset rfl) own started
  · obtain ⟨_, outcome, same, _⟩ := prepare_learns chosen _ _ stuck
    cases outcome <;> cases same

theorem announce_runs {outcome : Except Fault Unit} {steps : List Step} {ending : Outcome Unit}
    (run : (announce outcome).Runs steps ending) : portCalls steps = [] ∧ ending = .result () := by
  have logged : ∀ level message, (Program.log level message).Runs steps ending →
      portCalls steps = [] ∧ ending = .result () := by
    intro level message run
    obtain ⟨_, _, rfl, done⟩ := run.of_ask
    obtain ⟨rfl, rfl⟩ := done.of_result
    exact ⟨rfl, rfl⟩
  unfold announce at run
  split at run
  · exact logged _ _ run
  · split at run
    · exact logged _ _ run
    · split at run
      · exact logged _ _ run
      · obtain ⟨rfl, rfl⟩ := run.of_result
        exact ⟨rfl, rfl⟩

/-- What the end of shutting down comes to: the port is closed. -/
theorem close_runs {generator : Generator} {message : String} {stopped : Except Fault Unit}
    {steps : List Step} {ending : Outcome Unit}
    (run : (generator.close.bind fun _ => (Program.info message).bind fun _ =>
      Program.ofExcept stopped).Runs steps ending) :
    portCalls steps = [.closed generator.port] ∧ ending = .ofExcept stopped := by
  obtain ⟨_, _, rfl, closed⟩ := run.of_ask
  obtain ⟨_, _, rfl, logged⟩ := closed.of_ask
  cases stopped with
  | ok _ =>
    obtain ⟨rfl, rfl⟩ := Program.Runs.of_result logged
    exact ⟨rfl, rfl⟩
  | error _ =>
    obtain ⟨rfl, rfl⟩ := Program.Runs.of_fail logged
    exact ⟨rfl, rfl⟩

/-- The counter is turned off first, and the port is closed whatever comes of it. -/
theorem shutDown_runs {generator : Generator} {sampler : Sampler} {steps : List Step}
    {ending : Outcome Unit} (run : (shutDown generator (some sampler)).Runs steps ending) :
    ∃ stopped stopping accepted, ending = .ofExcept stopped ∧
      portCalls steps = stopping ++ [.closed generator.port] ∧
      (Command.enableCounter false).transaction.Makes sampler.generator.port stopping accepted := by
  obtain ⟨_, _, rfl, shown⟩ := run.of_ask
  obtain ⟨_, stopped, first, rest, rfl, ⟨accepted, made⟩, closing⟩ :=
    Program.Runs.of_stateful_bind (fun _ _ => Sampler.stop_runs) shown
  obtain ⟨closed, rfl⟩ := close_runs closing
  refine ⟨stopped, portCalls first, accepted, rfl, ?_, made⟩
  rw [← closed, ← portCalls_append]
  rfl

/-- How it goes on with a generator that was obtained. The last call closes its port, unless the
acquisition is still going on. -/
inductive Course (arguments : Arguments) (port : Port) (channel : Int) :
    List PortCall → Outcome Unit → Prop
  | unprepared {waveform calls fault} : Begins port (setupPlan arguments channel waveform) calls →
      Course arguments port channel (calls ++ [.closed port]) (.fault fault)
  | stopped {waveform setup rounds calls stopping accepted outcome} :
      Completes port (setupPlan arguments channel waveform) setup →
      Begins port (countingPlan rounds) calls → linesOn port calls ≠ [] →
      (Command.enableCounter false).transaction.Makes port stopping accepted →
      (outcome = .ok () → Completes port (countingPlan rounds) calls ∧ 0 < rounds) →
      Course arguments port channel (setup ++ calls ++ (stopping ++ [.closed port])) (.ofExcept outcome)
  | unfinished {waveform setup rounds calls} :
      Completes port (setupPlan arguments channel waveform) setup →
      Begins port (countingPlan rounds) calls → linesOn port calls ≠ [] →
      Course arguments port channel (setup ++ calls) .unfinished

/-- Shutting down after an acquisition. -/
theorem Acquires.shutDown {arguments : Arguments} {generator : Generator} {channel : Int}
    {calls : List PortCall} {sampler : Option Sampler} {outcome : Except Fault Unit}
    (acquires : Acquires arguments generator.port channel calls (.result (sampler, outcome)))
    {steps : List Step} {ending : Outcome Unit}
    (run : ((Acquisition.shutDown generator sampler).bind fun _ => Program.ofExcept outcome).Runs
      steps ending) : Course arguments generator.port channel (calls ++ portCalls steps) ending := by
  cases acquires with
  | unprepared begun =>
    rcases run.of_bind_ofExcept with ⟨first, closing, rfl⟩ | stuck
    · obtain ⟨closed, same⟩ := close_runs closing
      cases Outcome.ofExcept_inj same
      rw [closed]
      exact .unprepared begun
    · cases (close_runs stuck).2
  | counting whole progress written complete own =>
    rcases run.of_bind_ofExcept with ⟨first, stopping, rfl⟩ | stuck
    · obtain ⟨stopped, calls, accepted, same, closed, made⟩ := shutDown_runs stopping
      cases Outcome.ofExcept_inj same
      rw [own] at made
      rw [closed]
      refine .stopped whole progress.begins written made fun ok => ?_
      cases first with
      | error _ => cases ok
      | ok _ =>
        cases ok
        exact ⟨progress, complete rfl⟩
    · obtain ⟨stopped, _, _, same, _⟩ := shutDown_runs stuck
      cases stopped <;> cases same

theorem Acquires.returns {arguments : Arguments} {port : Port} {channel : Int} {calls : List PortCall}
    {fault : Fault} : ¬ Acquires arguments port channel calls (.fault fault) := nofun

theorem acquire_bind_runs {turns : Nat} {generator : Generator} {configuration : Configuration}
    {channel : Int} (chosen : Chosen configuration.arguments channel) {steps : List Step}
    {ending : Outcome Unit}
    (run : ((acquire turns generator configuration).bind fun (sampler, outcome) =>
      (announce outcome).bind fun _ => (shutDown generator sampler).bind fun _ =>
        Program.ofExcept outcome).Runs steps ending) :
    Course configuration.arguments generator.port channel (portCalls steps) ending := by
  rcases run.of_bind with ⟨⟨sampler, outcome⟩, first, rest, rfl, acquired, concluding⟩ |
    ⟨_, stopped, _⟩ | ⟨stuck, rfl⟩
  · have acquires := acquire_runs chosen acquired
    rw [portCalls_append]
    rcases Program.Runs.of_bind concluding with ⟨_, said, last, rfl, announced, closing⟩ |
      ⟨_, stopped, _⟩ | ⟨stuck, _⟩
    · rw [portCalls_append, (announce_runs announced).1, List.nil_append]
      exact acquires.shutDown closing
    · cases (announce_runs stopped).2
    · cases (announce_runs stuck).2
  · exact absurd (acquire_runs chosen stopped) Acquires.returns
  · have acquires := acquire_runs chosen stuck
    generalize portCalls steps = calls at acquires ⊢
    cases acquires with
    | unfinished whole begun written => exact .unfinished whole begun written

/-- How a whole acquisition can go and end: no generator is obtained, or one is, and then all goes on
with this one. -/
inductive Proceeds (commandLine : List String) : List PortCall → Outcome Unit → Prop
  | nowhere {calls fault} : Fruitless calls → Proceeds commandLine calls (.fault fault)
  | obtained {arguments channel early name port asked calls ending} :
      Arguments.ofCommandLine commandLine = .ok arguments → Chosen arguments channel →
      Fruitless early → Identifies port asked → Completes port [.command .readModel] asked →
      Course arguments port channel calls ending →
      Proceeds commandLine (early ++ .opened name (.ok port) :: (asked ++ calls)) ending

theorem Proceeds.silent {commandLine : List String} {fault : Fault} :
    Proceeds commandLine [] (.fault fault) :=
  .nowhere (.of_no_opening (List.forall_mem_nil _))

/-- The two files of an acquisition are named after its start. -/
theorem configuration_eq {commandLine : List String} {start : Instant} {configuration : Configuration}
    (accepted : Configuration.ofCommandLine commandLine start = .ok configuration) :
    ∃ arguments, Arguments.ofCommandLine commandLine = .ok arguments ∧
      configuration =
        ⟨arguments, start.fileStamp ++ "_counter.csv", start.fileStamp ++ "_channel_status.csv"⟩ := by
  unfold Configuration.ofCommandLine at accepted
  cases parsed : Arguments.ofCommandLine commandLine with
  | error fault =>
    rw [parsed] at accepted
    cases accepted
  | ok arguments =>
    rw [parsed] at accepted
    dsimp only [bind, Except.bind] at accepted
    split at accepted
    · cases accepted
    · cases accepted
      exact ⟨arguments, rfl, rfl⟩

theorem exists_chosen (arguments : Arguments) : ∃ channel, Chosen arguments channel := by
  cases given : arguments.channel with
  | value channel => exact ⟨channel, Or.inl given⟩
  | blank => exact ⟨1, Or.inr given⟩

/-- A run from where there is a configuration up to a generator. -/
def reach (configuration : Configuration) : Program Generator := do
  if configuration.arguments.verbose then Program.showDebug
  Program.info s!"Logging counter samples to {configuration.samplePath}"
  openPersistently configuration.arguments.port configuration.arguments.baudRate

/-- A run from where the generator was obtained. -/
def proceed (turns : Nat) (configuration : Configuration) (generator : Generator) : Program Unit :=
  (acquire turns generator configuration).bind fun (sampler, outcome) =>
    (announce outcome).bind fun _ => (shutDown generator sampler).bind fun _ => .ofExcept outcome

theorem reach_obtains {configuration : Configuration} {steps : List Step} {ending : Outcome Generator}
    (run : (reach configuration).Runs steps ending) : Obtains (portCalls steps) ending := by
  unfold reach at run
  split at run
  · obtain ⟨_, _, rfl, shown⟩ := Program.Runs.of_ask run
    obtain ⟨_, last, rfl, logged⟩ := Program.Runs.of_ask shown
    have obtains : Obtains (portCalls last) ending := openPersistently_runs logged
    exact obtains
  · obtain ⟨_, last, rfl, logged⟩ := Program.Runs.of_ask run
    have obtains : Obtains (portCalls last) ending := openPersistently_runs logged
    exact obtains

section
variable {turns : Nat} {commandLine : List String} {steps : List Step} {ending : Outcome Unit}

/-- With a configuration the run reaches for a generator and proceeds with it. -/
theorem run_of_accepted {start : Instant} {configuration : Configuration}
    (accepted : Configuration.ofCommandLine commandLine start = .ok configuration)
    (run : (Acquisition.run turns commandLine).Runs (⟨.now, .ok start⟩ :: steps) ending) :
    ((reach configuration).bind (proceed turns configuration)).Runs steps ending := by
  obtain ⟨_, _, same, timed⟩ := run.of_ask
  cases same
  simp only [id, Program.ofExcept_ok, Program.result_bind, accepted] at timed
  unfold reach
  cases verbose : configuration.arguments.verbose with
  | true =>
    simp only [verbose, if_true] at timed ⊢
    exact timed
  | false =>
    simp only [verbose, Bool.false_eq_true, if_false] at timed ⊢
    exact timed

/-- A run fails before there is a configuration, or goes on with it. -/
theorem run_parts (run : (Acquisition.run turns commandLine).Runs steps ending) :
    (portCalls steps = [] ∧ ∃ fault, ending = .fault fault) ∨
      ∃ start configuration rest, steps = ⟨.now, .ok start⟩ :: rest ∧
        Configuration.ofCommandLine commandLine start = .ok configuration ∧
        ((reach configuration).bind (proceed turns configuration)).Runs rest ending := by
  obtain ⟨answer, rest, rfl, timed⟩ := run.of_ask
  rcases answer with fault | start
  · obtain ⟨rfl, rfl⟩ := Program.Runs.of_fail timed
    exact Or.inl ⟨rfl, fault, rfl⟩
  · cases parsed : Configuration.ofCommandLine commandLine start with
    | error fault =>
      simp only [id, Program.ofExcept_ok, Program.result_bind, parsed] at timed
      obtain ⟨rfl, rfl⟩ := Program.Runs.of_fail timed
      exact Or.inl ⟨rfl, fault, rfl⟩
    | ok configuration => exact Or.inr ⟨start, configuration, rest, rfl, parsed, run_of_accepted parsed run⟩

/-- From the opening on. -/
theorem proceed_runs {configuration : Configuration}
    (accepted : Arguments.ofCommandLine commandLine = .ok configuration.arguments)
    (run : ((reach configuration).bind (proceed turns configuration)).Runs steps ending) :
    Proceeds commandLine (portCalls steps) ending := by
  obtain ⟨channel, chosen⟩ := exists_chosen configuration.arguments
  rcases run.of_bind with ⟨generator, first, last, rfl, found, acquiring⟩ | ⟨fault, failed, rfl⟩ |
    ⟨stuck, _⟩
  · have course := acquire_bind_runs chosen acquiring
    have obtains := reach_obtains found
    rw [portCalls_append]
    generalize portCalls first = calls at obtains ⊢
    cases obtains with
    | found vain identifies whole =>
      rw [List.append_assoc]
      exact .obtained accepted chosen vain identifies whole course
  · exact .nowhere (Obtains.fruitless (reach_obtains failed))
  · exact absurd (reach_obtains stuck) Obtains.finished

theorem run_runs (run : (Acquisition.run turns commandLine).Runs steps ending) :
    Proceeds commandLine (portCalls steps) ending := by
  rcases run_parts run with ⟨silent, fault, rfl⟩ | ⟨start, configuration, rest, rfl, accepted, going⟩
  · rw [silent]
    exact .silent
  · obtain ⟨arguments, parsed, rfl⟩ := configuration_eq accepted
    have proceeds : Proceeds commandLine (portCalls rest) ending := proceed_runs parsed going
    exact proceeds

end

end Acquisition

end SignalGenerator
