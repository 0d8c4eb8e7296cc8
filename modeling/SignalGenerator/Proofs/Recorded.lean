import SignalGenerator.Proofs.Polling
import SignalGenerator.Proofs.Shutdown

/-!
What an acquisition records. It comes to polling or fails before, and then it is concluded; only polling appends to
the file with the samples and reads numbers of the counter. Main statement: the rows are those of the ticks that
were completed, in order, and an acquisition that ends well has as many ticks as it takes to reach a limit.
-/

namespace SignalGenerator

open Program (Aside Only Quiet Runs)

namespace Acquisition

/-- The interval of a schedule, and when it begins. -/
def schedule (configuration : Configuration) : Program (Number × Instant) := do
  let interval ← Program.ofExcept (configuration.arguments.pollInterval.demand .pollInterval)
  return (interval, ← Program.now)

/-- Everything after an acquisition that ended like this. -/
def conclude (generator : Generator) (sampler : Option Sampler) (outcome : Except Fault Unit) : Program Unit := do
  announce outcome
  shutDown generator sampler
  Program.ofExcept outcome

/-- An acquisition that fails before it comes to polling, with the sampler that was made by then. -/
inductive Fails (generator : Generator) (configuration : Configuration) :
    List Step → Option Sampler → Fault → Prop
  | unprepared {steps fault} : (prepare generator configuration).Runs steps (.fault fault) →
      Fails generator configuration steps none fault
  | unstarted {preparing starting fresh sampler fault} :
      (prepare generator configuration).Runs preparing (.result fresh) →
      fresh.start.Runs starting (.result (sampler, .error fault)) →
      Fails generator configuration (preparing ++ starting) (some sampler) fault
  | unscheduled {preparing starting scheduling fresh sampler fault} :
      (prepare generator configuration).Runs preparing (.result fresh) →
      fresh.start.Runs starting (.result (sampler, .ok ())) →
      (schedule configuration).Runs scheduling (.fault fault) →
      Fails generator configuration (preparing ++ (starting ++ scheduling)) (some sampler) fault

/-- An acquisition that comes to polling, with the sampler to poll, what the stopwatch showed when it was started,
the interval, and when the first poll is due. -/
inductive Comes (generator : Generator) (configuration : Configuration) :
    List Step → Sampler → Binary64 → Number → Instant → Prop
  | prepared {preparing starting scheduling fresh sampler begun interval due} :
      (prepare generator configuration).Runs preparing (.result fresh) →
      fresh.start.Runs starting (.result (sampler, .ok ())) →
      (stopwatchReadings starting).getLast? = some begun →
      (schedule configuration).Runs scheduling (.result (interval, due)) →
      Comes generator configuration (preparing ++ (starting ++ scheduling)) sampler begun interval due

/-- What there is to tell of an acquisition. -/
structure Account where
  /-- What the stopwatch showed at the start, if it came to polling. -/
  begun : Option Binary64
  /-- The ticks that were completed. -/
  frames : List Frame
  halt : Halt
  /-- The sampler that is stopped in the end. -/
  last : Option Sampler

/-- An acquisition in which no poll was begun. -/
def Account.unbegun (last : Option Sampler) : Account := ⟨none, [], .unbegun, last⟩

/-- The acquisition proper, with what there is to tell of it. -/
inductive Pursues (turns : Nat) (generator : Generator) (configuration : Configuration) :
    List Step → Account → Outcome (Option Sampler × Except Fault Unit) → Prop
  | failed {steps sampler fault} : Fails generator configuration steps sampler fault →
      Pursues turns generator configuration steps (.unbegun sampler) (.result (sampler, .error fault))
  | polled {coming polling sampler begun interval due frames halt last outcome} :
      Comes generator configuration coming sampler begun interval due →
      Polling interval configuration.samplePath turns due sampler polling frames halt (.result (last, outcome)) →
      Pursues turns generator configuration (coming ++ polling) ⟨some begun, frames, halt, some last⟩
        (.result (some last, outcome))
  | unfinished {coming polling sampler begun interval due frames halt} :
      Comes generator configuration coming sampler begun interval due →
      Polling interval configuration.samplePath turns due sampler polling frames halt .unfinished →
      Pursues turns generator configuration (coming ++ polling) ⟨some begun, frames, halt, none⟩ .unfinished

/-- A whole acquisition after its command line was read, with what there is to tell of it. -/
inductive Journey (turns : Nat) (configuration : Configuration) : List Step → Account → Outcome Unit → Prop
  | unopened {steps fault} : (reach configuration).Runs steps (.fault fault) →
      Journey turns configuration steps (.unbegun none) (.fault fault)
  | concluded {opening pursuing closing generator account sampler outcome ending} :
      (reach configuration).Runs opening (.result generator) →
      Pursues turns generator configuration pursuing account (.result (sampler, outcome)) →
      (conclude generator sampler outcome).Runs closing ending →
      Journey turns configuration (opening ++ (pursuing ++ closing)) account ending
  | unfinished {opening pursuing generator account} :
      (reach configuration).Runs opening (.result generator) →
      Pursues turns generator configuration pursuing account .unfinished →
      Journey turns configuration (opening ++ pursuing) account .unfinished

section
variable {turns : Nat} {generator : Generator} {configuration : Configuration} {steps : List Step}

/-- Polling only comes to an end. -/
theorem Polling.returns {interval : Number} {path : String} {due : Instant} {sampler : Sampler}
    {frames : List Frame} {halt : Halt} {fault : Fault} :
    ¬ Polling interval path turns due sampler steps frames halt (.fault fault) := by
  intro polling
  generalize same : Outcome.fault fault = ending at polling
  induction polling with
  | waited _ _ _ ih => exact ih same
  | ticked _ _ _ _ ih => exact ih same
  | _ => cases same

theorem pollOnSchedule_cases {sampler : Sampler} (running : sampler.running = true)
    {ending : Outcome (Sampler × Except Fault Unit)}
    (run : (pollOnSchedule turns configuration sampler).Runs steps ending) :
    (∃ fault, (schedule configuration).Runs steps (.fault fault) ∧ ending = .result (sampler, .error fault)) ∨
      ∃ scheduling polling interval due frames halt, steps = scheduling ++ polling ∧
        (schedule configuration).Runs scheduling (.result (interval, due)) ∧
        Polling interval configuration.samplePath turns due sampler polling frames halt ending := by
  rcases Runs.of_attempt_bind run with ⟨outcome, first, rest, rfl, begun, continued⟩ | ⟨stuck, _⟩
  · rcases outcome with fault | ⟨interval, due⟩
    · obtain ⟨rfl, rfl⟩ := Runs.of_result continued
      rw [List.append_nil]
      exact Or.inl ⟨fault, begun, rfl⟩
    · obtain ⟨frames, halt, polling⟩ := pollUntilComplete_polling turns running continued
      exact Or.inr ⟨first, rest, interval, due, frames, halt, rfl, begun, polling⟩
  · rcases Runs.of_ofExcept_bind stuck with ⟨interval, _, timed⟩ | ⟨_, _, _, same⟩
    · obtain ⟨answer, _, _, ended⟩ := Runs.of_ask timed
      cases answer <;> cases ended
    · cases same

theorem acquire_pursues {ending : Outcome (Option Sampler × Except Fault Unit)}
    (run : (acquire turns generator configuration).Runs steps ending) :
    ∃ account, Pursues turns generator configuration steps account ending := by
  rcases Runs.of_attempt_bind run with ⟨outcome, preparing, rest, rfl, prepared, continued⟩ | ⟨stuck, _⟩
  · rcases outcome with fault | fresh
    · obtain ⟨rfl, rfl⟩ := Runs.of_result continued
      rw [List.append_nil]
      exact ⟨_, .failed (.unprepared prepared)⟩
    · obtain ⟨sampler, outcome, starting, last, rfl, started, polled⟩ :=
        Runs.of_stateful_bind (fun steps ending run => by
          obtain ⟨after, outcome, rfl, _⟩ := Sampler.start_runs run
          exact ⟨after, outcome, rfl, run⟩) continued
      rcases outcome with fault | _
      · obtain ⟨rfl, rfl⟩ := Runs.of_result polled
        rw [List.append_nil]
        exact ⟨_, .failed (.unstarted prepared started)⟩
      · obtain ⟨begun, reading, running⟩ : ∃ begun,
            (stopwatchReadings starting).getLast? = some begun ∧ sampler.running = true := by
          rcases Sampler.start_effect started with ⟨_, same, _⟩ | ⟨begun, _, reading, rfl⟩
          · cases same
          · exact ⟨begun, reading, rfl⟩
        rcases Runs.of_bind polled with ⟨⟨last, outcome⟩, first, done, rfl, polling, concluded⟩ |
          ⟨fault, stopped, rfl⟩ | ⟨stuck, rfl⟩
        · obtain ⟨rfl, rfl⟩ := Runs.of_result concluded
          rw [List.append_nil]
          rcases pollOnSchedule_cases running polling with ⟨fault, unscheduled, same⟩ |
            ⟨scheduling, polling, _, _, frames, halt, rfl, scheduled, went⟩
          · cases same
            exact ⟨_, .failed (.unscheduled prepared started unscheduled)⟩
          · have pursues := Pursues.polled (.prepared prepared started reading scheduled) went
            simp only [List.append_assoc] at pursues
            exact ⟨_, pursues⟩
        · rcases pollOnSchedule_cases running stopped with ⟨_, _, same⟩ | ⟨_, _, _, _, _, _, _, _, went⟩
          · cases same
          · exact absurd went Polling.returns
        · rcases pollOnSchedule_cases running stuck with ⟨_, _, same⟩ |
            ⟨scheduling, polling, _, _, frames, halt, rfl, scheduled, went⟩
          · cases same
          · have pursues := Pursues.unfinished (.prepared prepared started reading scheduled) went
            simp only [List.append_assoc] at pursues
            exact ⟨_, pursues⟩
  · obtain ⟨channel, chosen⟩ := exists_chosen configuration.arguments
    obtain ⟨_, outcome, same, _⟩ := prepare_learns chosen _ _ stuck
    cases outcome <;> cases same

theorem run_journey {commandLine : List String} {start : Instant} {ending : Outcome Unit}
    (accepted : Configuration.ofCommandLine commandLine start = .ok configuration)
    (run : (Acquisition.run turns commandLine).Runs (⟨.now, .ok start⟩ :: steps) ending) :
    ∃ account, Journey turns configuration steps account ending := by
  rcases (run_of_accepted accepted run).of_bind with ⟨generator, opening, rest, rfl, opened, acquiring⟩ |
    ⟨fault, failed, rfl⟩ | ⟨stuck, _⟩
  · rcases Runs.of_bind acquiring with ⟨⟨sampler, outcome⟩, pursuing, closing, rfl, acquired, concluding⟩ |
      ⟨fault, failed, _⟩ | ⟨stuck, rfl⟩
    · obtain ⟨account, pursues⟩ := acquire_pursues acquired
      exact ⟨account, .concluded opened pursues concluding⟩
    · obtain ⟨_, pursues⟩ := acquire_pursues failed
      cases pursues
    · obtain ⟨account, pursues⟩ := acquire_pursues stuck
      exact ⟨account, .unfinished opened pursues⟩
  · exact ⟨_, .unopened failed⟩
  · exact absurd (reach_obtains stuck) Obtains.finished

end

/-- Steps beside polling: nothing is appended to the file, and no number of the counter is read. -/
structure Beside (path : String) (steps : List Step) : Prop where
  texts : textsOn path steps = []
  aside : Aside (portCalls steps)

namespace Beside

variable {path : String} {steps rest : List Step}

theorem of_run {α : Type} {program : Program α} {ending : Outcome α} (spares : program.Spares path)
    (aside : program.Aside) (run : program.Runs steps ending) : Beside path steps :=
  ⟨spares.textsOn run, aside _ _ run⟩

theorem append (first : Beside path steps) (last : Beside path rest) : Beside path (steps ++ rest) where
  texts := by rw [textsOn_append, first.texts, last.texts, List.append_nil]
  aside := by
    rw [portCalls_append]
    exact first.aside.append last.aside

/-- What comes before and after polling adds nothing to it. -/
theorem around {polling : List Step} (before : Beside path steps) (after : Beside path rest)
    (fresh : Fresh (portCalls polling)) :
    textsOn path (steps ++ (polling ++ rest)) = textsOn path polling ∧
      numbersRead (portCalls (steps ++ (polling ++ rest))) = numbersRead (portCalls polling) := by
  constructor
  · rw [textsOn_append, textsOn_append, before.texts, after.texts, List.append_nil, List.nil_append]
  · rw [portCalls_append, portCalls_append, numbersRead_append (fresh.append after.aside.fresh),
      numbersRead_append after.aside.fresh, before.aside.numbersRead, after.aside.numbersRead, Nat.zero_add,
      Nat.add_zero]

end Beside

section
variable {turns : Nat} {generator : Generator} {configuration : Configuration} {path : String}
  {steps : List Step} {account : Account}

theorem reach_beside {ending : Outcome Generator} (run : (reach configuration).Runs steps ending) :
    Beside path steps := by
  have opens := @openPersistently_spares path configuration.arguments.port configuration.arguments.baudRate
  have aside := openPersistently_aside configuration.arguments.port configuration.arguments.baudRate
  refine .of_run ?_ ?_ run <;> unfold reach <;> split
  · exact (Only.ask nofun fun _ => .result).bind fun _ => .info_bind nofun opens
  · exact .info_bind nofun opens
  · exact (Aside.of_quiet (.ask (fun _ => rfl) fun _ => .result _)).bind fun _ =>
      (Aside.of_quiet (.info _)).bind fun _ => aside
  · exact (Aside.of_quiet (.info _)).bind fun _ => aside

theorem schedule_beside {ending : Outcome (Number × Instant)}
    (run : (schedule configuration).Runs steps ending) : Beside path steps := by
  refine .of_run ((Only.ofExcept _).bind fun _ => (Only.perform nofun _).bind fun _ => .result) ?_ run
  exact .of_quiet ((Quiet.ofExcept _).bind fun _ =>
    (Quiet.ask (fun _ => rfl) fun _ => .ofExcept _).bind fun _ => .result _)

theorem conclude_beside {sampler : Option Sampler} {outcome : Except Fault Unit} {ending : Outcome Unit}
    (run : (conclude generator sampler outcome).Runs steps ending) : Beside path steps := by
  refine .of_run ((announce_spares outcome).bind fun _ => (shutDown_spares generator sampler).bind fun _ =>
    .ofExcept _) ?_ run
  exact (Aside.of_quiet (announce_quiet outcome)).bind fun _ =>
    (shutDown_aside generator sampler).bind fun _ => .of_quiet (.ofExcept _)

theorem start_beside {sampler : Sampler} {ending : Outcome (Sampler × Except Fault Unit)}
    (run : sampler.start.Runs steps ending) : Beside path steps :=
  .of_run sampler.start_spares sampler.start_aside run

theorem prepare_beside (other : configuration.statusPath ≠ configuration.samplePath) {ending : Outcome Sampler}
    (run : (prepare generator configuration).Runs steps ending) : Beside configuration.samplePath steps :=
  .of_run (prepare_spares generator other) (prepare_aside generator configuration) run

/-- The sampler that is polled has just been started. -/
theorem Comes.sampler_eq {sampler : Sampler} {begun : Binary64} {interval : Number} {due : Instant}
    (comes : Comes generator configuration steps sampler begun interval due) :
    sampler = ⟨generator, limits configuration.arguments, 0, true, false, some begun⟩ := by
  obtain ⟨prepared, started, reading, _⟩ := comes
  cases prepare_result prepared
  rcases Sampler.start_effect started with ⟨_, same, _⟩ | ⟨_, _, last, rfl⟩
  · cases same
  · cases reading.symm.trans last
    rfl

theorem Comes.beside {sampler : Sampler} {begun : Binary64} {interval : Number} {due : Instant}
    (comes : Comes generator configuration steps sampler begun interval due)
    (other : configuration.statusPath ≠ configuration.samplePath) : Beside configuration.samplePath steps := by
  obtain ⟨prepared, started, _, scheduled⟩ := comes
  exact (prepare_beside other prepared).append ((start_beside started).append (schedule_beside scheduled))

theorem Fails.beside {sampler : Option Sampler} {fault : Fault}
    (fails : Fails generator configuration steps sampler fault)
    (other : configuration.statusPath ≠ configuration.samplePath) : Beside configuration.samplePath steps := by
  cases fails with
  | unprepared prepared => exact prepare_beside other prepared
  | unstarted prepared started => exact (prepare_beside other prepared).append (start_beside started)
  | unscheduled prepared started scheduled =>
    exact (prepare_beside other prepared).append ((start_beside started).append (schedule_beside scheduled))

theorem Fails.tickCount {sampler : Option Sampler} {fault : Fault}
    (fails : Fails generator configuration steps sampler fault) : ∀ last ∈ sampler, last.tickCount = 0 := by
  have fresh {preparing starting : List Step} {fresh last : Sampler} {outcome : Except Fault Unit}
      (prepared : (prepare generator configuration).Runs preparing (.result fresh))
      (started : fresh.start.Runs starting (.result (last, outcome))) : last.tickCount = 0 := by
    cases prepare_result prepared
    rcases Sampler.start_effect started with ⟨_, _, rfl⟩ | ⟨_, _, _, rfl⟩ <;> rfl
  cases fails with
  | unprepared => rintro _ ⟨⟩
  | unstarted prepared started =>
    rintro _ ⟨⟩
    exact fresh prepared started
  | unscheduled prepared started =>
    rintro _ ⟨⟩
    exact fresh prepared started

end

/-- The polling that there is to tell of, if it came to that. -/
inductive Account.Tells (turns : Nat) (configuration : Configuration) : List Step → Account → Prop
  | unbegun {last} : Tells turns configuration [] (.unbegun last)
  | polled {generator begun interval due polling frames halt last ending} :
      Polling interval configuration.samplePath turns due
        ⟨generator, limits configuration.arguments, 0, true, false, some begun⟩ polling frames halt ending →
      Tells turns configuration polling ⟨some begun, frames, halt, last⟩

section
variable {turns : Nat} {configuration : Configuration} {polling steps : List Step} {account : Account}

namespace Account.Tells

theorem rows (tells : account.Tells turns configuration polling) :
    List.Forall₂ Records (account.frames.flatMap Frame.samples ++ account.halt.left)
      (textsOn configuration.samplePath polling) := by
  cases tells with
  | unbegun => exact .nil
  | polled polling => exact polling.rows

theorem labels (tells : account.Tells turns configuration polling) :
    ∀ frame ∈ account.frames,
      frame.samples.map (fun sample => (sample.quantity, sample.unit)) = Sampler.tickLabels := by
  cases tells with
  | unbegun => exact List.forall_mem_nil _
  | polled polling => exact polling.labels

theorem numbersRead (tells : account.Tells turns configuration polling) :
    Fresh (portCalls polling) ∧ ∃ extra,
      SignalGenerator.numbersRead (portCalls polling) = 4 * account.frames.length + extra ∧
      (extra < 4 ∨ extra = 4 ∧ ∃ taken, account.halt = .recording taken) := by
  cases tells with
  | unbegun => exact ⟨.nil, 0, rfl, Or.inl (Nat.succ_pos _)⟩
  | polled polling => exact polling.numbersRead

theorem unwritten (tells : account.Tells turns configuration polling) {taken : List Sample}
    (partly : account.halt = .recording taken) : ∃ step ∈ polling, step.unwritten configuration.samplePath := by
  cases tells with
  | unbegun => cases partly
  | polled polling =>
    cases partly
    exact polling.unwritten

theorem least (tells : account.Tells turns configuration polling) (complete : account.halt = .complete) :
    ∃ begun ∈ account.begun, ∀ clock, Frame.Fits clock account.frames →
      LeastPositive (fun count => (limits configuration.arguments).Met begun count (clock count))
        account.frames.length := by
  cases tells with
  | unbegun => cases complete
  | @polled _ begun _ _ _ _ _ _ _ polling =>
    refine ⟨begun, rfl, fun clock fits => ?_⟩
    have least := polling.least complete rfl fits
    simp only [Nat.zero_add] at least
    exact least

end Account.Tells

theorem Pursues.tells {generator : Generator} {ending : Outcome (Option Sampler × Except Fault Unit)}
    (pursues : Pursues turns generator configuration steps account ending)
    (other : configuration.statusPath ≠ configuration.samplePath) :
    ∃ before polling, steps = before ++ polling ∧ Beside configuration.samplePath before ∧
      account.Tells turns configuration polling := by
  cases pursues with
  -- Nothing was polled, so all of it counts as coming before.
  | failed fails => exact ⟨steps, [], (List.append_nil _).symm, fails.beside other, .unbegun⟩
  | polled comes polling =>
    cases comes.sampler_eq
    exact ⟨_, _, rfl, comes.beside other, .polled polling⟩
  | unfinished comes polling =>
    cases comes.sampler_eq
    exact ⟨_, _, rfl, comes.beside other, .polled polling⟩

/-- The polling of an acquisition is all that writes to the file with the samples and reads the counter. -/
theorem Journey.tells {ending : Outcome Unit} (journey : Journey turns configuration steps account ending)
    (other : configuration.statusPath ≠ configuration.samplePath) :
    ∃ polling, account.Tells turns configuration polling ∧ polling ⊆ steps ∧
      textsOn configuration.samplePath steps = textsOn configuration.samplePath polling ∧
      numbersRead (portCalls steps) = numbersRead (portCalls polling) := by
  obtain ⟨before, polling, after, rfl, early, late, tells⟩ : ∃ before polling after,
      steps = before ++ (polling ++ after) ∧ Beside configuration.samplePath before ∧
        Beside configuration.samplePath after ∧ account.Tells turns configuration polling := by
    have nothing : Beside configuration.samplePath [] := ⟨rfl, .nil⟩
    cases journey with
    | unopened failed => exact ⟨steps, [], [], (List.append_nil _).symm, reach_beside failed, nothing, .unbegun⟩
    | concluded opened pursues concluding =>
      obtain ⟨before, polling, rfl, early, tells⟩ := pursues.tells other
      refine ⟨_ ++ before, polling, _, ?_, (reach_beside opened).append early, conclude_beside concluding, tells⟩
      rw [List.append_assoc, List.append_assoc]
    | unfinished opened pursues =>
      obtain ⟨before, polling, rfl, early, tells⟩ := pursues.tells other
      refine ⟨_ ++ before, polling, [], ?_, (reach_beside opened).append early, nothing, tells⟩
      rw [List.append_nil, List.append_assoc]
  obtain ⟨texts, numbers⟩ := early.around late tells.numbersRead.1
  refine ⟨polling, tells, fun step member => ?_, texts, numbers⟩
  exact List.mem_append_right _ (List.mem_append_left _ member)

/-- The sampler has counted the ticks. -/
theorem Journey.tickCount {ending : Outcome Unit} (journey : Journey turns configuration steps account ending) :
    ∀ sampler ∈ account.last, sampler.tickCount = account.frames.length := by
  cases journey with
  | unopened => rintro _ ⟨⟩
  | concluded _ pursues =>
    cases pursues with
    | failed fails => exact fails.tickCount
    | polled comes polling =>
      rintro _ ⟨⟩
      cases comes.sampler_eq
      exact polling.tickCount.trans (Nat.zero_add _)
  | unfinished _ pursues =>
    cases pursues
    rintro _ ⟨⟩

/-- An acquisition that ends well has reached a limit. -/
theorem Journey.complete (journey : Journey turns configuration steps account (.result ())) :
    account.halt = .complete := by
  cases journey with
  | concluded _ pursues concluding =>
    obtain ⟨_, _, _, _, _, closing⟩ := Runs.of_bind_result concluding
    obtain ⟨_, _, _, _, _, ended⟩ := closing.of_bind_result
    have well := Outcome.ofExcept_eq_result.mp ended.of_ofExcept.2.symm
    cases pursues with
    | failed => cases well
    | polled _ polling =>
      cases well
      exact polling.halt_of_ok

/-- As many rows as there are samples in the ticks. -/
theorem length_flatMap_samples {frames : List Frame} (labels : ∀ frame ∈ frames,
      frame.samples.map (fun sample => (sample.quantity, sample.unit)) = Sampler.tickLabels) :
    (frames.flatMap Frame.samples).length = 4 * frames.length := by
  induction frames with
  | nil => rfl
  | cons frame frames ih =>
    rw [List.forall_mem_cons] at labels
    have four : frame.samples.length = 4 := by
      have length := congrArg List.length labels.1
      rwa [List.length_map] at length
    rw [List.flatMap_cons, List.length_append, four, ih labels.2, List.length_cons]
    omega

/-- Unless the recording of a sample fails, both the rows and the numbers that were read tell how many ticks there
were. -/
theorem Account.Tells.length (tells : account.Tells turns configuration polling)
    (whole : ∀ taken, account.halt ≠ .recording taken) :
    SignalGenerator.numbersRead (portCalls polling) / 4 = account.frames.length ∧
      (textsOn configuration.samplePath polling).length = 4 * account.frames.length := by
  constructor
  · obtain ⟨_, extra, counted, fewer | ⟨_, taken, partly⟩⟩ := tells.numbersRead
    · omega
    · exact absurd partly (whole taken)
  · have none : account.halt.left = [] := by
      cases halt : account.halt with
      | recording taken => exact absurd halt (whole taken)
      | _ => rfl
    have rows := tells.rows.length_eq
    rw [none, List.append_nil] at rows
    rw [← rows, length_flatMap_samples tells.labels]

end

theorem samplePath_ne {commandLine : List String} {start : Instant} {configuration : Configuration}
    (accepted : Configuration.ofCommandLine commandLine start = .ok configuration) :
    configuration.statusPath ≠ configuration.samplePath := by
  obtain ⟨_, _, rfl⟩ := configuration_eq accepted
  intro same
  have ends := congrArg String.toList same
  rw [String.toList_append, String.toList_append] at ends
  exact absurd (List.append_cancel_left ends) (by decide)

/-- The times that the stopwatch showed at the ends of the ticks. -/
def Frame.clock (frames : List Frame) (count : Nat) : Binary64 :=
  (frames[count - 1]?.bind Frame.shown).getD .nan

theorem Frame.fits_clock (frames : List Frame) : Fits (clock frames) frames := by
  intro index frame found reading shown
  rw [clock, Nat.add_sub_cancel, found, Option.bind_some, Option.mem_def.mp shown]
  rfl

/-- The file with the samples gains the rows of the ticks that were completed, tick by tick, and no others unless
the recording of a sample fails. However the acquisition ends, the completed ticks are those that the sampler has
counted, and those whose four numbers were all read. It ends well only after the least number of ticks with which a
limit is reached, and never without a limit. -/
theorem rows_of_ticks {turns : Nat} {commandLine : List String} {start : Instant}
    {configuration : Configuration}
    (accepted : Configuration.ofCommandLine commandLine start = .ok configuration) {steps : List Step}
    {ending : Outcome Unit}
    (run : (Acquisition.run turns commandLine).Runs (⟨.now, .ok start⟩ :: steps) ending) :
    ∃ account, Journey turns configuration steps account ending ∧
      List.Forall₂ Records (account.frames.flatMap Frame.samples ++ account.halt.left)
        (textsOn configuration.samplePath steps) ∧
      (∀ frame ∈ account.frames,
        frame.samples.map (fun sample => (sample.quantity, sample.unit)) = Sampler.tickLabels) ∧
      (∀ sampler ∈ account.last, sampler.tickCount = account.frames.length) ∧
      ((∀ taken, account.halt ≠ .recording taken) →
        numbersRead (portCalls steps) / 4 = account.frames.length ∧
        (textsOn configuration.samplePath steps).length = 4 * account.frames.length) ∧
      (∀ taken, account.halt = .recording taken → ∃ step ∈ steps, step.unwritten configuration.samplePath) ∧
      (ending = .result () → account.halt = .complete ∧
        ∃ begun ∈ account.begun, ∀ clock, Frame.Fits clock account.frames →
          LeastPositive (fun count => (limits configuration.arguments).Met begun count (clock count))
            account.frames.length) ∧
      (configuration.arguments.limitSamples = none → configuration.arguments.limitMsec = none →
        ending ≠ .result ()) := by
  obtain ⟨account, journey⟩ := run_journey accepted run
  obtain ⟨polling, tells, within, texts, numbers⟩ := journey.tells (samplePath_ne accepted)
  rw [texts, numbers]
  refine ⟨account, journey, tells.rows, tells.labels, journey.tickCount, tells.length, ?_, ?_, ?_⟩
  · intro taken partly
    obtain ⟨step, member, unwritten⟩ := tells.unwritten partly
    exact ⟨step, within member, unwritten⟩
  · rintro rfl
    exact ⟨journey.complete, tells.least journey.complete⟩
  · rintro noTicks noTime rfl
    obtain ⟨_, _, least⟩ := tells.least journey.complete
    obtain ⟨_, met, _⟩ := least _ (Frame.fits_clock account.frames)
    simp [AcquisitionLimits.Met, limits, noTicks, noTime] at met

/-- Two ticks are asked for, and there are eight rows. Where the second tick is given a reply without a number, only
the first one is completed, and there are four. -/
theorem rows_of_ticks_twice :
    let commandLine := ["--limit-samples", "2", "--poll-interval", "0.001"]
    let measured := ["ok\n", ":r0e100\n", "ok\n", ":r0e200\n", "ok\n", ":r0e300\n", "ok\n", ":r0e400\n"]
    let prepared := [":r0c5225A000\n", ":r1w5\n", ":r1f100\n", ":r1y1\n", ":r1a500\n", "ok\n", "ok\n"]
    let start : Instant := ⟨62135596800000000⟩
    let interval : Number := .real (.ofDecimal false 1 (-3))
    let configuration : Configuration :=
      ⟨{ Arguments.default with limitSamples := some (.value 2), pollInterval := .value interval },
        start.fileStamp ++ "_counter.csv", start.fileStamp ++ "_channel_status.csv"⟩
    let bench := Bench.offering (prepared ++ measured ++ measured ++ ["ok\n"]) []
    let confused := Bench.offering (prepared ++ measured ++ measured.take 5 ++ ["late\n", "ok\n"]) []
    let acquisition := Acquisition.run 9 commandLine
    let steps := (acquisition.stepsIn Bench.recording bench).tail
    let fewer := (acquisition.stepsIn Bench.recording confused).tail
    let fault : Fault := .noValue ":r0e" "late"
    Configuration.ofCommandLine commandLine start = .ok configuration ∧
      acquisition.Runs (⟨.now, .ok start⟩ :: steps) (.result ()) ∧
      (∃ account, Journey 9 configuration steps account (.result ()) ∧ account.halt = .complete ∧
        account.frames.length = 2 ∧ (textsOn configuration.samplePath steps).length = 8) ∧
      acquisition.Runs (⟨.now, .ok start⟩ :: fewer) (.fault fault) ∧
      ∃ account, Journey 9 configuration fewer account (.fault fault) ∧
        account.frames.length = 1 ∧ (textsOn configuration.samplePath fewer).length = 4 := by
  intro commandLine measured prepared start interval configuration bench confused acquisition steps fewer fault
  have accepted : Configuration.ofCommandLine commandLine start = .ok configuration := by decide +kernel
  have executed (bench : Bench)
      (opened : (acquisition.stepsIn Bench.recording bench).head? = some ⟨.now, .ok start⟩) :
      acquisition.Runs (⟨.now, .ok start⟩ :: (acquisition.stepsIn Bench.recording bench).tail)
        (acquisition.runIn Bench.recording bench).1 := by
    rw [List.cons_head?_tail opened]
    exact Program.runs_runIn Bench.recording _ bench
  have run := executed bench rfl
  have cut := executed confused rfl
  have ended : (acquisition.runIn Bench.recording bench).1 = .result () := by decide +kernel
  have failed : (acquisition.runIn Bench.recording confused).1 = .fault fault := by decide +kernel
  rw [ended] at run
  rw [failed] at cut
  refine ⟨accepted, run, ?_, cut, ?_⟩
  · obtain ⟨account, journey, _, _, _, count, _, well, _⟩ := rows_of_ticks accepted run
    obtain ⟨complete, _⟩ := well rfl
    have whole : ∀ taken, account.halt ≠ .recording taken := by
      rintro taken partly
      cases complete.symm.trans partly
    obtain ⟨numbers, length⟩ := count whole
    have two : account.frames.length = 2 :=
      numbers.symm.trans (by decide +kernel : numbersRead (portCalls steps) / 4 = 2)
    exact ⟨account, journey, complete, two, by rw [length, two]⟩
  · obtain ⟨account, journey, _, _, _, count, partly, _⟩ := rows_of_ticks accepted cut
    have written : ∀ step ∈ fewer, step.unwritten configuration.samplePath = false := by decide +kernel
    have whole : ∀ taken, account.halt ≠ .recording taken := by
      intro taken halt
      obtain ⟨step, member, unwritten⟩ := partly taken halt
      exact Bool.false_ne_true ((written step member).symm.trans unwritten)
    obtain ⟨numbers, length⟩ := count whole
    have one : account.frames.length = 1 :=
      numbers.symm.trans (by decide +kernel : numbersRead (portCalls fewer) / 4 = 1)
    exact ⟨account, journey, one, by rw [length, one]⟩

end Acquisition

end SignalGenerator
