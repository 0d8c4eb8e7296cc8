import Mathlib.Data.List.Forall2
import SignalGenerator.Proofs.NumbersRead
import SignalGenerator.Proofs.Requests
import SignalGenerator.Proofs.SamplerHistory

/-!
What is recorded while the counter is polled. Polling is a sequence of ticks with waiting in between, and each
tick that is completed reads four numbers and appends four rows. The ticks are those that the sampler counts, and
polling that ends well has as many as it takes to reach a limit.
-/

namespace SignalGenerator

open Program (Only Runs)

/-- The texts that were appended to a file, in order. -/
def textsOn (path : String) (steps : List Step) : List String :=
  steps.filterMap fun
    | ⟨.append target text, .ok ()⟩ => if target = path then some text else none
    | _ => none

@[simp] theorem textsOn_append (path : String) (first rest : List Step) :
    textsOn path (first ++ rest) = textsOn path first ++ textsOn path rest := List.filterMap_append

/-- Where nothing is appended to the file, it does not grow. -/
theorem textsOn_of_spares {path : String} {steps : List Step}
    (spares : ∀ step ∈ steps, step.request.Spares path) : textsOn path steps = [] := by
  refine List.filterMap_eq_nil_iff.mpr fun step member => ?_
  have spared := spares step member
  rcases step with ⟨request, answer⟩
  cases request
  case append target text =>
    have other : target ≠ path := fun same => spared text (by rw [same])
    rcases answer with _ | _
    · rfl
    · exact if_neg other
  all_goals rfl

theorem Program.Spares.textsOn {α : Type} {path : String} {program : Program α}
    (spares : program.Spares path)
    {steps : List Step} {ending : Outcome α} (run : program.Runs steps ending) :
    SignalGenerator.textsOn path steps = [] :=
  textsOn_of_spares (Only.runs spares run)

/-- A text is the row of a sample at the time at which it was written, after the names of the columns if it is
the first one in the file. -/
def Records (sample : Sample) (text : String) : Prop :=
  ∃ time isEmpty, text = Row.entry isEmpty
    [("timestamp", .instant time), ("quantity", .text sample.quantity), ("value", .real sample.value),
      ("unit", .text sample.unit)]

/-- A row cannot be written: the time is not told, or the file is not opened or does not take the text. -/
def Step.unwritten (path : String) : Step → Bool
  | ⟨.now, .error _⟩ => true
  | ⟨.startAppending target, .error _⟩ => decide (target = path)
  | ⟨.append target _, .error _⟩ => decide (target = path)
  | _ => false

theorem Recording.sample_runs {path : String} {sample : Sample} {steps : List Step} {ending : Outcome Unit}
    (run : (Recording.sample path sample).Runs steps ending) :
    (ending = .result () ∧ ∃ text, textsOn path steps = [text] ∧ Records sample text) ∨
      ∃ fault, ending = .fault fault ∧ textsOn path steps = [] ∧ ∃ step ∈ steps, step.unwritten path := by
  obtain ⟨answer, _, rfl, timed⟩ := run.of_ask
  rcases answer with fault | time
  · obtain ⟨rfl, rfl⟩ := Runs.of_fail timed
    exact Or.inr ⟨fault, rfl, rfl, _, List.mem_cons_self, rfl⟩
  · obtain ⟨answer, _, rfl, opened⟩ := Runs.of_ask timed
    rcases answer with fault | isEmpty
    · obtain ⟨rfl, rfl⟩ := Runs.of_fail opened
      refine Or.inr ⟨fault, rfl, rfl, _, List.mem_cons_of_mem _ List.mem_cons_self, ?_⟩
      exact decide_eq_true rfl
    · obtain ⟨answer, _, rfl, appended⟩ := Runs.of_ask opened
      rcases answer with fault | _
      · obtain ⟨rfl, rfl⟩ := Runs.of_fail appended
        refine Or.inr ⟨fault, rfl, rfl, _, List.mem_cons_of_mem _ (List.mem_cons_of_mem _ List.mem_cons_self), ?_⟩
        exact decide_eq_true rfl
      · obtain ⟨rfl, rfl⟩ := Runs.of_result appended
        exact Or.inl ⟨rfl, _, by simp [textsOn], time, isEmpty, rfl⟩

/-- Samples are recorded in a file. -/
def Recording.listener (path : String) : Listener where
  take := Recording.sample path
  quiet := fun sample _ _ run =>
    have ⟨_, _, progress⟩ := @Recording.sample_sends ⟨0, ""⟩ path sample _ _ run
    progress.begins.of_nil

namespace Counter

theorem Reads.talks {port : Port} {function : CounterFunction} {steps : List Step}
    {outcome : Except Fault Int}
    (reads : Reads port function steps outcome) : ∀ step ∈ steps, step.request.Talks := by
  have selects : (selectFunction port function).Talks := Exchange.order_talks _ _
  have asks : (readRegister port).Talks := Exchange.queryInteger_talks _ _
  cases reads with
  | unselected run _ => exact selects.runs run
  | unread selecting _ reading _ =>
    exact List.forall_mem_append.mpr ⟨selects.runs selecting, asks.runs reading⟩
  | read selecting _ reading _ =>
    exact List.forall_mem_append.mpr ⟨selects.runs selecting, asks.runs reading⟩

end Counter

namespace Sampler

variable {path : String} {steps : List Step}

theorem Measures.talks {port : Port} {functions : List CounterFunction} {outcome : Except Fault (List Sample)}
    (measures : Measures port functions steps outcome) : ∀ step ∈ steps, step.request.Talks := by
  induction measures with
  | nil => exact List.forall_mem_nil _
  | failed reads => exact reads.talks
  | next reads _ _ ih => exact List.forall_mem_append.mpr ⟨reads.talks, ih⟩

theorem Measures.textsOn {port : Port} {functions : List CounterFunction}
    {outcome : Except Fault (List Sample)}
    (measures : Measures port functions steps outcome) : textsOn path steps = [] :=
  textsOn_of_spares fun step member => (measures.talks step member).spares

theorem HandsOver.silent {samples : List Sample} (hands : HandsOver (Recording.sample path) samples steps) :
    portCalls steps = [] :=
  @HandsOver.quiet _ (Recording.listener path) _ hands

/-- Each sample that was taken has got its row. -/
theorem HandsOver.rows {samples : List Sample} (hands : HandsOver (Recording.sample path) samples steps) :
    List.Forall₂ Records samples (textsOn path steps) := by
  induction hands with
  | nil => exact .nil
  | next taking _ ih =>
    rcases Recording.sample_runs taking with ⟨_, text, texts, records⟩ | ⟨_, same, _⟩
    · rw [textsOn_append, texts]
      exact .cons records ih
    · cases same

theorem Judges.textsOn {sampler : Sampler} {verdict : Except Fault Bool}
    (judges : sampler.Judges steps verdict) :
    textsOn path steps = [] := by
  cases judges <;> rfl

theorem announcement_textsOn (sampler : Sampler) (verdict : Except Fault Bool) :
    textsOn path (announcement sampler verdict) = [] := by
  unfold announcement
  split <;> rfl

/-- The rows of a poll are those of the samples that were taken from it. -/
theorem Tick.rows {sampler : Sampler} {taken : List Sample}
    {ending : Outcome (Sampler × Except Fault (List Sample))}
    (tick : Tick sampler (Recording.sample path) steps taken ending) :
    List.Forall₂ Records taken (textsOn path steps) := by
  cases tick with
  | unread measures =>
    rw [measures.textsOn]
    exact .nil
  | refused measures hands refusing =>
    rcases Recording.sample_runs refusing with ⟨same, _⟩ | ⟨_, _, none, _⟩
    · cases same
    · rw [textsOn_append, textsOn_append, measures.textsOn, none, List.append_nil]
      exact hands.rows
  | stuck _ _ taking =>
    rcases Recording.sample_runs taking with ⟨same, _⟩ | ⟨_, same, _⟩ <;> cases same
  | counted measures hands judges =>
    rw [textsOn_append, textsOn_append, textsOn_append, measures.textsOn, judges.textsOn,
      announcement_textsOn, List.append_nil, List.append_nil]
    exact hands.rows

theorem Tick.running {sampler after : Sampler} {take : Sample → Program Unit} {taken : List Sample}
    {outcome : Except Fault (List Sample)} (tick : Tick sampler take steps taken (.result (after, outcome))) :
    after.running = sampler.running := by
  cases tick <;> rfl

theorem Tick.tickCount {sampler after : Sampler} {take : Sample → Program Unit} {taken samples : List Sample}
    (tick : Tick sampler take steps taken (.result (after, .ok samples))) :
    after.tickCount = sampler.tickCount + 1 := by
  rcases tick.whole_or_nothing with ⟨_, counts, _⟩ | ⟨_, ⟨_, same⟩, _⟩
  · exact counts
  · cases same

/-- A tick that counts has read all four numbers. -/
theorem Tick.numbersRead {sampler after : Sampler} {taken : List Sample} {outcome : Except Fault (List Sample)}
    (tick : Tick sampler (Recording.sample path) steps taken (.result (after, outcome)))
    (counts : after.tickCount = sampler.tickCount + 1) :
    Fresh (portCalls steps) ∧ SignalGenerator.numbersRead (portCalls steps) = 4 := by
  cases tick with
  | unread => exact absurd counts (Nat.succ_ne_self _).symm
  | refused => exact absurd counts (Nat.succ_ne_self _).symm
  | counted measures hands judges =>
    rw [portCalls_append, portCalls_append, portCalls_append, hands.silent, judges.quiet, announcement_quiet,
      List.append_nil, List.append_nil, List.append_nil]
    exact ⟨measures.numbersRead.1, measures.numbersRead.2.1 _ rfl⟩

end Sampler

namespace Acquisition

open Sampler (Tick Measures HandsOver)

/-- What there is of one tick: its samples, and what the stopwatch showed in the end if it was looked at. -/
structure Frame where
  samples : List Sample
  shown : Option Binary64

def Frame.of (samples : List Sample) (steps : List Step) : Frame :=
  ⟨samples, (stopwatchReadings steps).getLast?⟩

/-- Where polling has stopped. -/
inductive Halt
  /-- It did not come to polling. -/
  | unbegun
  /-- A limit was reached. -/
  | complete
  /-- No poll was begun after the last tick. -/
  | waiting
  /-- A transaction of a poll failed. -/
  | measuring
  /-- A sample of a poll could not be recorded, after these ones. -/
  | recording (taken : List Sample)
  /-- After a tick it could not be said whether a limit was reached. -/
  | judging
  /-- It goes on, but all the turns that were asked for were made. -/
  | unfinished

/-- The samples that were recorded of a tick that was not completed. -/
def Halt.left : Halt → List Sample
  | .recording taken => taken
  | _ => []

/-- How polling goes from one state to its end within so many turns, with the ticks that were completed. -/
inductive Polling (interval : Number) (path : String) :
    Nat → Instant → Sampler → List Step → List Frame → Halt →
    Outcome (Sampler × Except Fault Unit) → Prop
  | complete {turns due sampler} : sampler.completed = true →
      Polling interval path turns due sampler [] [] .complete (.result (sampler, .ok ()))
  | unfinished {due sampler} : sampler.completed = false →
      Polling interval path 0 due sampler [] [] .unfinished .unfinished
  | interrupted {turns due sampler steps fault} : sampler.completed = false →
      (Schedule.waitOrAdvance interval due).Runs steps (.fault fault) →
      Polling interval path (turns + 1) due sampler steps [] .waiting (.result (sampler, .error fault))
  | waited {turns due sampler waiting rest frames halt ending} : sampler.completed = false →
      (Schedule.waitOrAdvance interval due).Runs waiting (.result none) →
      Polling interval path turns due sampler rest frames halt ending →
      Polling interval path (turns + 1) due sampler (waiting ++ rest) frames halt ending
  | unmeasured {turns due sampler waiting next ticking fault} : sampler.completed = false →
      (Schedule.waitOrAdvance interval due).Runs waiting (.result (some next)) →
      Measures sampler.generator.port CounterFunction.pollingOrder ticking (.error fault) →
      Polling interval path (turns + 1) due sampler (waiting ++ ticking) [] .measuring
        (.result (sampler, .error fault))
  | unrecorded {turns due sampler waiting next measuring handing refusing taken sample left fault} :
      sampler.completed = false →
      (Schedule.waitOrAdvance interval due).Runs waiting (.result (some next)) →
      Measures sampler.generator.port CounterFunction.pollingOrder measuring
        (.ok (taken ++ sample :: left)) →
      HandsOver (Recording.sample path) taken handing →
      (Recording.sample path sample).Runs refusing (.fault fault) →
      Polling interval path (turns + 1) due sampler (waiting ++ (measuring ++ (handing ++ refusing))) []
        (.recording taken) (.result (sampler, .error fault))
  | unjudged {turns due sampler waiting next ticking samples fault} : sampler.completed = false →
      (Schedule.waitOrAdvance interval due).Runs waiting (.result (some next)) →
      Tick sampler (Recording.sample path) ticking samples (.result (sampler.ticked, .error fault)) →
      Polling interval path (turns + 1) due sampler (waiting ++ ticking) [.of samples ticking] .judging
        (.result (sampler.ticked, .error fault))
  | ticked {turns due sampler waiting next ticking samples taken after rest frames halt ending} :
      sampler.completed = false →
      (Schedule.waitOrAdvance interval due).Runs waiting (.result (some next)) →
      Tick sampler (Recording.sample path) ticking samples (.result (after, .ok taken)) →
      Polling interval path turns next after rest frames halt ending →
      Polling interval path (turns + 1) due sampler (waiting ++ (ticking ++ rest))
        (.of samples ticking :: frames) halt ending

variable {interval : Number} {path : String}

/-- Waiting comes to an end, and makes no calls. -/
theorem waitOrAdvance_settles {due : Instant} {steps : List Step} {ending : Outcome (Option Instant)}
    (run : (Schedule.waitOrAdvance interval due).Runs steps ending) :
    portCalls steps = [] ∧ ∃ outcome, ending = .ofExcept outcome := by
  obtain ⟨outcome, same, progress⟩ := @waitOrAdvance_sends ⟨0, ""⟩ interval due _ _ run
  exact ⟨progress.begins.of_nil, outcome, same⟩

/-- Going on after a poll. -/
theorem poll_bind_polling {turns : Nat} {due next : Instant} {sampler : Sampler}
    (running : sampler.running = true) (fresh : sampler.completed = false) {waiting steps : List Step}
    (waited : (Schedule.waitOrAdvance interval due).Runs waiting (.result (some next)))
    {ending : Outcome (Sampler × Except Fault Unit)}
    (run : ((sampler.poll (Recording.sample path)).bind fun (polled, outcome) =>
      match outcome with
      | .error fault => .result (polled, .error fault)
      | .ok _ => Schedule.pollUntilComplete interval (Recording.sample path) turns next polled).Runs
        steps ending)
    (onward : ∀ after steps, after.running = true →
      (Schedule.pollUntilComplete interval (Recording.sample path) turns next after).Runs steps ending →
      ∃ frames halt, Polling interval path turns next after steps frames halt ending) :
    ∃ frames halt, Polling interval path (turns + 1) due sampler (waiting ++ steps) frames halt ending := by
  rcases run.of_bind with ⟨⟨after, outcome⟩, ticking, rest, rfl, polled, continued⟩ | ⟨_, stopped, _⟩ |
    ⟨stuck, _⟩
  · obtain ⟨taken, tick⟩ := Sampler.poll_tick running polled
    cases outcome with
    | ok samples =>
      obtain ⟨frames, halt, polling⟩ := onward after rest (tick.running.trans running) continued
      exact ⟨_, halt, .ticked fresh waited tick polling⟩
    | error fault =>
      obtain ⟨rfl, rfl⟩ := Runs.of_result continued
      rw [List.append_nil]
      have failed := tick
      generalize same : (Except.error fault : Except Fault (List Sample)) = outcome at failed
      cases failed with
      | unread measures =>
        cases same
        exact ⟨[], _, .unmeasured fresh waited measures⟩
      | refused measures hands refusing =>
        cases same
        exact ⟨[], _, .unrecorded fresh waited measures hands refusing⟩
      | @counted _ _ _ _ verdict =>
        cases verdict with
        | ok => cases same
        | error cause =>
          -- All samples were recorded and the tick is counted, but not whether it was the last one.
          have unjudged : sampler.ticked.judged (.error cause) = sampler.ticked := Sampler.judged_of_ne nofun
          rw [unjudged] at tick ⊢
          exact ⟨_, _, .unjudged fresh waited tick⟩
  · obtain ⟨_, tick⟩ := Sampler.poll_tick running stopped
    cases tick
  · obtain ⟨_, tick⟩ := Sampler.poll_tick running stuck
    cases tick with
    | stuck _ _ taking =>
      rcases Recording.sample_runs taking with ⟨same, _⟩ | ⟨_, same, _⟩ <;> cases same

theorem pollUntilComplete_polling (turns : Nat) {due : Instant} {sampler : Sampler}
    (running : sampler.running = true) {steps : List Step} {ending : Outcome (Sampler × Except Fault Unit)}
    (run : (Schedule.pollUntilComplete interval (Recording.sample path) turns due sampler).Runs steps ending) :
    ∃ frames halt, Polling interval path turns due sampler steps frames halt ending := by
  induction turns generalizing due sampler steps with
  | zero =>
    unfold Schedule.pollUntilComplete at run
    split at run
    · rename_i completed
      obtain ⟨rfl, rfl⟩ := run.of_result
      exact ⟨[], _, .complete completed⟩
    · rename_i incomplete
      cases run
      exact ⟨[], _, .unfinished (Bool.not_eq_true _ ▸ incomplete)⟩
  | succ turns ih =>
    unfold Schedule.pollUntilComplete at run
    split at run
    · rename_i completed
      obtain ⟨rfl, rfl⟩ := run.of_result
      exact ⟨[], _, .complete completed⟩
    · rename_i incomplete
      have fresh : sampler.completed = false := Bool.not_eq_true _ ▸ incomplete
      rcases Runs.of_attempt_bind run with ⟨outcome, waiting, rest, rfl, waited, continued⟩ | ⟨stuck, _⟩
      · rcases outcome with fault | _ | next
        · obtain ⟨rfl, rfl⟩ := Runs.of_result continued
          rw [List.append_nil]
          exact ⟨[], _, .interrupted fresh waited⟩
        · obtain ⟨frames, halt, polling⟩ := ih running continued
          exact ⟨frames, halt, .waited fresh waited polling⟩
        · exact poll_bind_polling running fresh waited continued fun _ _ awake => ih awake
      · obtain ⟨_, outcome, same⟩ := waitOrAdvance_settles stuck
        cases outcome <;> cases same

section
variable {turns : Nat} {due : Instant} {sampler : Sampler} {steps : List Step} {frames : List Frame}
  {halt : Halt} {ending : Outcome (Sampler × Except Fault Unit)}

/-- The rows are those of the ticks, and after them those of a tick that was not completed. -/
theorem Polling.rows (polling : Polling interval path turns due sampler steps frames halt ending) :
    List.Forall₂ Records (frames.flatMap Frame.samples ++ halt.left) (textsOn path steps) := by
  have quiet : ∀ {due : Instant} {waiting : List Step} {ending : Outcome (Option Instant)},
      (Schedule.waitOrAdvance interval due).Runs waiting ending → textsOn path waiting = [] :=
    (waitOrAdvance_spares interval _).textsOn
  induction polling with
  | complete => exact .nil
  | unfinished => exact .nil
  | interrupted _ waited =>
    rw [quiet waited]
    exact .nil
  | waited _ waited _ ih =>
    rw [textsOn_append, quiet waited]
    exact ih
  | unmeasured _ waited measures =>
    rw [textsOn_append, quiet waited, measures.textsOn]
    exact .nil
  | unrecorded _ waited measures hands refusing =>
    have tick := Tick.refused measures hands refusing
    rw [textsOn_append, quiet waited]
    exact tick.rows
  | unjudged _ waited tick =>
    rw [textsOn_append, quiet waited, List.flatMap_singleton, show Halt.judging.left = [] from rfl,
      List.append_nil]
    exact tick.rows
  | ticked _ waited tick _ ih =>
    rw [textsOn_append, textsOn_append, quiet waited, List.flatMap_cons, List.append_assoc]
    exact List.rel_append tick.rows ih

/-- Every tick that is completed has one sample for each function, in order. -/
theorem Polling.labels (polling : Polling interval path turns due sampler steps frames halt ending) :
    ∀ frame ∈ frames,
      frame.samples.map (fun sample => (sample.quantity, sample.unit)) = Sampler.tickLabels := by
  induction polling with
  | complete => exact List.forall_mem_nil _
  | unfinished => exact List.forall_mem_nil _
  | interrupted => exact List.forall_mem_nil _
  | waited _ _ _ ih => exact ih
  | unmeasured => exact List.forall_mem_nil _
  | unrecorded => exact List.forall_mem_nil _
  | unjudged _ _ tick =>
    rcases tick.whole_or_nothing with ⟨labels, _⟩ | ⟨same, _⟩
    · exact List.forall_mem_singleton.mpr labels
    · exact absurd (congrArg Sampler.tickCount same) (Nat.succ_ne_self _)
  | ticked _ _ tick _ ih =>
    rcases tick.whole_or_nothing with ⟨labels, _⟩ | ⟨_, ⟨_, same⟩, _⟩
    · exact List.forall_mem_cons.mpr ⟨labels, ih⟩
    · cases same

/-- Polling only ends well where a limit was reached. -/
theorem Polling.halt_of_ok {last : Sampler}
    (polling : Polling interval path turns due sampler steps frames halt (.result (last, .ok ()))) :
    halt = .complete := by
  generalize same : Outcome.result (last, Except.ok ()) = ending at polling
  induction polling with
  | complete => rfl
  | waited _ _ _ ih => exact ih same
  | ticked _ _ _ _ ih => exact ih same
  | _ => cases same

/-- The sampler has counted the ticks. -/
theorem Polling.tickCount {last : Sampler} {outcome : Except Fault Unit}
    (polling : Polling interval path turns due sampler steps frames halt (.result (last, outcome))) :
    last.tickCount = sampler.tickCount + frames.length := by
  generalize same : Outcome.result (last, outcome) = ending at polling
  induction polling with
  | unfinished => cases same
  | waited _ _ _ ih => exact ih same
  | ticked _ _ tick _ ih => rw [ih same, tick.tickCount, List.length_cons, Nat.add_right_comm, Nat.add_assoc]
  | _ =>
    cases same
    rfl

/-- Each tick has read four numbers. After the last tick fewer than four are read, unless the recording fails
after the fourth. -/
theorem Polling.numbersRead (polling : Polling interval path turns due sampler steps frames halt ending) :
    Fresh (portCalls steps) ∧ ∃ extra,
      SignalGenerator.numbersRead (portCalls steps) = 4 * frames.length + extra ∧
      (extra < 4 ∨ extra = 4 ∧ ∃ taken, halt = .recording taken) := by
  induction polling with
  | complete => exact ⟨.nil, 0, rfl, Or.inl (Nat.succ_pos _)⟩
  | unfinished => exact ⟨.nil, 0, rfl, Or.inl (Nat.succ_pos _)⟩
  | interrupted _ waited =>
    rw [(waitOrAdvance_settles waited).1]
    exact ⟨.nil, 0, rfl, Or.inl (Nat.succ_pos _)⟩
  | waited _ waited _ ih =>
    rw [portCalls_append, (waitOrAdvance_settles waited).1]
    exact ih
  | unmeasured _ waited measures =>
    obtain ⟨fresh, _, fewer⟩ := measures.numbersRead
    rw [portCalls_append, (waitOrAdvance_settles waited).1]
    exact ⟨fresh, _, (Nat.zero_add _).symm, Or.inl (fewer _ rfl)⟩
  | @unrecorded _ _ _ _ _ _ _ refusing taken sample _ _ _ waited measures hands refused =>
    obtain ⟨fresh, all, _⟩ := measures.numbersRead
    have silent : portCalls refusing = [] := (Recording.listener path).quiet sample _ _ refused
    rw [portCalls_append, portCalls_append, portCalls_append, (waitOrAdvance_settles waited).1, hands.silent,
      silent, List.append_nil, List.append_nil]
    exact ⟨fresh, 4, all _ rfl, Or.inr ⟨rfl, taken, rfl⟩⟩
  | unjudged _ waited tick =>
    obtain ⟨fresh, four⟩ := tick.numbersRead rfl
    rw [portCalls_append, (waitOrAdvance_settles waited).1]
    exact ⟨fresh, 0, four, Or.inl (Nat.succ_pos _)⟩
  | ticked _ waited tick _ ih =>
    obtain ⟨fresh, four⟩ := tick.numbersRead tick.tickCount
    obtain ⟨later, extra, counted, rest⟩ := ih
    rw [portCalls_append, portCalls_append, (waitOrAdvance_settles waited).1, List.nil_append,
      numbersRead_append later, four, counted, List.length_cons]
    exact ⟨fresh.append later, extra, by omega, rest⟩

/-- A tick is only recorded in part where a row cannot be written. -/
theorem Polling.unwritten {taken : List Sample}
    (polling : Polling interval path turns due sampler steps frames (.recording taken) ending) :
    ∃ step ∈ steps, step.unwritten path := by
  generalize same : Halt.recording taken = halt at polling
  induction polling with
  | waited _ _ _ ih =>
    obtain ⟨step, member, unwritten⟩ := ih same
    exact ⟨step, List.mem_append_right _ member, unwritten⟩
  | unrecorded _ _ _ _ refusing =>
    rcases Recording.sample_runs refusing with ⟨impossible, _⟩ | ⟨_, _, _, step, member, unwritten⟩
    · cases impossible
    · refine ⟨step, ?_, unwritten⟩
      simp only [List.mem_append, member, or_true]
  | ticked _ _ _ _ ih =>
    obtain ⟨step, member, unwritten⟩ := ih same
    exact ⟨step, List.mem_append_right _ (List.mem_append_right _ member), unwritten⟩
  | _ => cases same

/-- A time for the end of each tick, counted from one, that goes with what the stopwatch showed. -/
def Frame.Fits (clock : Nat → Binary64) (frames : List Frame) : Prop :=
  ∀ index frame, frames[index]? = some frame → ∀ reading ∈ frame.shown, reading = clock (index + 1)

/-- The least positive number with a property. -/
def LeastPositive (property : Nat → Prop) (n : Nat) : Prop :=
  0 < n ∧ property n ∧ ∀ fewer, 0 < fewer → fewer < n → ¬ property fewer

theorem LeastPositive.succ {property : Nat → Prop} {n : Nat} (first : ¬ property 1)
    (later : LeastPositive (fun n => property (n + 1)) n) : LeastPositive property (n + 1) := by
  obtain ⟨_, least, others⟩ := later
  refine ⟨Nat.succ_pos n, least, fun fewer positive below => ?_⟩
  rcases fewer with _ | _ | fewer
  · cases positive
  · exact first
  · exact others (fewer + 1) (Nat.succ_pos fewer) (Nat.lt_of_succ_lt_succ below)

theorem LeastPositive.one {property : Nat → Prop} (first : property 1) : LeastPositive property 1 :=
  ⟨Nat.one_pos, first, fun _ positive below => absurd below (Nat.not_lt.mpr positive)⟩

/-- A sampler that is complete is not polled again. -/
theorem Polling.none_of_completed (polling : Polling interval path turns due sampler steps frames halt ending)
    (completed : sampler.completed = true) : frames = [] := by
  cases polling with
  | complete => rfl
  | unfinished => rfl
  | interrupted => rfl
  | unmeasured => rfl
  | unrecorded => rfl
  | waited fresh => cases fresh.symm.trans completed
  | unjudged fresh => cases fresh.symm.trans completed
  | ticked fresh => cases fresh.symm.trans completed

/-- Induction on the polling. A tick that does not reach a limit is one more before the others. -/
theorem Polling.least (polling : Polling interval path turns due sampler steps frames halt ending)
    (complete : halt = .complete) (fresh : sampler.completed = false) {clock : Nat → Binary64}
    (fits : Frame.Fits clock frames) :
    LeastPositive (fun count => sampler.limits.Met (sampler.startTime.getD Binary64.zero)
      (sampler.tickCount + count) (clock count)) frames.length := by
  induction polling generalizing clock with
  | complete completed => cases fresh.symm.trans completed
  | waited _ _ _ ih => exact ih complete fresh fits
  | @ticked _ _ sampler _ _ ticking _ _ after _ frames _ _ _ _ tick later ih =>
    have ends : EndsAt ticking (clock 1) := fits 0 _ rfl
    obtain ⟨reached, rfl, met⟩ := tick.met ends
    cases reached with
    | true =>
      rw [later.none_of_completed (Bool.or_true _)]
      exact .one (met.mp rfl)
    | false =>
      have onward : Frame.Fits (fun count => clock (count + 1)) frames :=
        fun index frame found => fits (index + 1) frame found
      have least := ih complete (by rw [fresh]; rfl) onward
      refine .succ (fun early => Bool.false_ne_true (met.mpr early)) ?_
      simpa only [Nat.add_assoc, Nat.add_comm 1] using least
  | _ => cases complete

end

end Acquisition

end SignalGenerator
