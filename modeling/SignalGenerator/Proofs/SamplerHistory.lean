import SignalGenerator.Proofs.Ticks

/-!
The state of a sampler after any history of starts, polls and stops, as it can be read off from how these
ended. Main statement: the number of ticks counts the polls since the last start that ended well, the sampler
runs from such a start to the next stop, and the acquisition is complete as soon as one of these polls has
reached a limit.
-/

namespace SignalGenerator

open Program (Runs)

/-- What the stopwatch showed, in order. -/
def stopwatchReadings (steps : List Step) : List Binary64 :=
  steps.filterMap fun
    | ⟨.stopwatch, time⟩ => some time
    | _ => none

@[simp] theorem stopwatchReadings_append (first rest : List Step) :
    stopwatchReadings (first ++ rest) = stopwatchReadings first ++ stopwatchReadings rest :=
  List.filterMap_append

/-- What the stopwatch showed last, if it was looked at, is this time. -/
def EndsAt (steps : List Step) (time : Binary64) : Prop :=
  ∀ reading ∈ (stopwatchReadings steps).getLast?, reading = time

instance (steps : List Step) (time : Binary64) : Decidable (EndsAt steps time) :=
  inferInstanceAs (Decidable (∀ reading ∈ (stopwatchReadings steps).getLast?, reading = time))

theorem EndsAt.of_append {first rest : List Step} {time : Binary64} (ends : EndsAt (first ++ rest) time) :
    EndsAt rest time := by
  intro reading last
  refine ends reading ?_
  rw [stopwatchReadings_append, List.getLast?_append, Option.mem_def.mp last]
  rfl

/-- Where a limit lies that is at most a whole number. -/
theorem Number.isAtMost_integer {limit : Number} {n : Int} :
    limit.isAtMost (.integer n) = true ↔
      limit.place = .below ∨ ∃ units, limit.place = .units units ∧ units ≤ n * unitsPerOne := by
  rw [isAtMost, isLess, isSame, show (integer n).place = .units (n * unitsPerOne) from rfl]
  generalize n * unitsPerOne = whole
  cases limit.place with
  | below => simp [Place.isLess]
  | units a =>
    simp only [Place.isLess, Place.isSame, Bool.or_eq_true, decide_eq_true_eq, Place.units.injEq,
      reduceCtorEq, false_or, exists_eq_left']
    exact le_iff_lt_or_eq.symm
  | above => simp [Place.isLess, Place.isSame]
  | nowhere => simp [Place.isLess, Place.isSame]

/-- A limit that a whole number has reached is reached by every larger one. -/
theorem Number.isAtMost_mono {limit : Number} {m n : Int} (within : m ≤ n)
    (reached : limit.isAtMost (.integer m) = true) : limit.isAtMost (.integer n) = true := by
  rw [isAtMost_integer] at reached ⊢
  rcases reached with below | ⟨units, lies, bound⟩
  · exact Or.inl below
  · exact Or.inr ⟨units, lies, bound.trans (Int.mul_le_mul_of_nonneg_right within (Int.natCast_nonneg _))⟩

/-- What reaches a limit of at least one is at least one. -/
theorem Number.one_le_of_isAtMost {limit : Number} {n : Int}
    (positive : (Number.integer 1).isAtMost limit = true)
    (reached : limit.isAtMost (.integer n) = true) : 1 ≤ n := by
  rcases isAtMost_integer.mp reached with below | ⟨units, lies, bound⟩
  · rw [isAtMost, isLess, isSame, below] at positive
    cases positive
  · have least : (unitsPerOne : Int) ≤ units := by
      rw [isAtMost, isLess, isSame, lies, show (integer 1).place = .units (1 * unitsPerOne) from rfl]
        at positive
      simp only [Place.isLess, Place.isSame, Bool.or_eq_true, decide_eq_true_eq, Place.units.injEq]
        at positive
      omega
    have one : (0 : Int) < unitsPerOne := Int.natCast_pos.mpr unitsPerOne_pos
    have scaled : 1 * (unitsPerOne : Int) ≤ n * unitsPerOne := by rw [one_mul]; exact least.trans bound
    exact le_of_mul_le_mul_right scaled one

namespace AcquisitionLimits

/-- A limit is reached, by the number of ticks or by the milliseconds from the start to a later time. -/
def Met (limits : AcquisitionLimits) (start : Binary64) (count : Nat) (time : Binary64) : Prop :=
  (∃ limit, limits.ticks = some (.value limit) ∧ limit.isAtMost (.integer count) = true) ∨
    ∃ limit, limits.milliseconds = some (.value limit) ∧
      limit.isAtMost (.real (Sampler.elapsedMilliseconds start time)) = true

/-- Limits of which each is a number, or there is none. -/
def ofNumbers (ticks milliseconds : Option Number) : AcquisitionLimits :=
  ⟨ticks.map .value, milliseconds.map .value⟩

theorem reached_ok_iff {parameter : Parameter} {limit : Option (Given Number)} {value : Number}
    {reached : Bool}
    (decided : AcquisitionLimits.reached parameter limit value = .ok reached) :
    (∃ number, limit = some (.value number) ∧ number.isAtMost value = true) ↔ reached = true := by
  rcases limit with _ | number | _
  · cases decided
    simp
  · cases decided
    simp
  · cases decided

theorem reached_number (parameter : Parameter) (limit : Option Number) (value : Number) :
    ∃ verdict, reached parameter (limit.map .value) value = .ok verdict := by
  cases limit with
  | none => exact ⟨false, rfl⟩
  | some number => exact ⟨number.isAtMost value, rfl⟩

end AcquisitionLimits

namespace Sampler

open AcquisitionLimits (ofNumbers)

variable {ticks milliseconds : Option Number}

/-- A verdict says whether a limit is reached. -/
theorem Judges.met {sampler : Sampler} {time : Binary64} {steps : List Step} {reached : Bool}
    (judges : sampler.Judges steps (.ok reached)) (ends : EndsAt steps time) : reached = true ↔
      sampler.limits.Met (sampler.startTime.getD Binary64.zero) sampler.tickCount time := by
  generalize given : Except.ok reached = verdict at judges
  cases judges with
  | undecided => cases given
  | counted decided =>
    cases given
    exact iff_of_true rfl (Or.inl ((AcquisitionLimits.reached_ok_iff decided).mpr rfl))
  | @timed reading decided =>
    have same : reading = time := ends reading rfl
    subst same
    have few := (AcquisitionLimits.reached_ok_iff decided).not.mpr Bool.false_ne_true
    exact (AcquisitionLimits.reached_ok_iff given.symm).symm.trans (or_iff_right few).symm

/-- There is a verdict on limits that are numbers. -/
theorem Judges.decides {sampler : Sampler} (numbers : sampler.limits = ofNumbers ticks milliseconds)
    {steps : List Step} {verdict : Except Fault Bool} (judges : sampler.Judges steps verdict) :
    ∃ reached, verdict = .ok reached := by
  cases judges with
  | undecided undecided =>
    obtain ⟨_, decided⟩ := AcquisitionLimits.reached_number .limitSamples ticks (.integer sampler.tickCount)
    rw [numbers] at undecided
    cases decided.symm.trans undecided
  | counted => exact ⟨true, rfl⟩
  | timed =>
    rw [numbers]
    exact AcquisitionLimits.reached_number _ milliseconds _

/-- An operation of a sampler, with what came of it. A start and a poll come with the time at which they
ended. -/
inductive Event
  | start (time : Binary64) (outcome : Except Fault Unit)
  | poll (time : Binary64) (outcome : Except Fault (List Sample))
  | stop (outcome : Except Fault Unit)

namespace Event

/-- A start that ended well. -/
def starts : Event → Bool
  | .start _ (.ok ()) => true
  | _ => false

/-- A poll that ended well. -/
def polls : Event → Bool
  | .poll _ (.ok _) => true
  | _ => false

/-- A stop, however it ended. -/
def stops : Event → Bool
  | .stop _ => true
  | _ => false

/-- The operation that an event stands for is carried out, whatever the port, the stopwatch and the one who
takes the samples do. -/
inductive Made (sampler : Sampler) : Event → Sampler → Prop
  | start {steps time after outcome} : sampler.start.Runs steps (.result (after, outcome)) →
      EndsAt steps time → Made sampler (.start time outcome) after
  | poll {take steps time after outcome} : (sampler.poll take).Runs steps (.result (after, outcome)) →
      EndsAt steps time → Made sampler (.poll time outcome) after
  | stop {steps after outcome} : sampler.stop.Runs steps (.result (after, outcome)) →
      Made sampler (.stop outcome) after

/-- What an event makes of a sampler. -/
inductive Turns (sampler : Sampler) : Event → Sampler → Prop
  | started {time} : Turns sampler (.start time (.ok ()))
      { sampler with tickCount := 0, completed := false, running := true, startTime := some time }
  | unstarted {time fault} : Turns sampler (.start time (.error fault)) sampler
  | counted {time samples reached} : sampler.running = true →
      (reached = true ↔ sampler.limits.Met (sampler.startTime.getD Binary64.zero)
        (sampler.tickCount + 1) time) →
      Turns sampler (.poll time (.ok samples))
        { sampler with tickCount := sampler.tickCount + 1, completed := sampler.completed || reached }
  | missed {time fault} : Turns sampler (.poll time (.error fault)) sampler
  | stopped {outcome} :
      Turns sampler (.stop outcome) { sampler with running := false }

end Event

theorem announcement_readings (sampler : Sampler) (verdict : Except Fault Bool) :
    stopwatchReadings (announcement sampler verdict) = [] := by
  unfold announcement
  split <;> rfl

theorem start_effect {sampler after : Sampler} {steps : List Step} {outcome : Except Fault Unit}
    (run : sampler.start.Runs steps (.result (after, outcome))) :
    (∃ fault, outcome = .error fault ∧ after = sampler) ∨
      ∃ time, outcome = .ok () ∧ (stopwatchReadings steps).getLast? = some time ∧
        after = { sampler with tickCount := 0, completed := false, running := true, startTime := some time } := by
  rcases Runs.of_attempt_bind run with ⟨tried, first, rest, rfl, _, continued⟩ | ⟨_, same⟩
  · rcases tried with fault | _
    · cases (Runs.of_result continued).2
      exact Or.inl ⟨fault, rfl, rfl⟩
    · obtain ⟨time, _, rfl, timed⟩ := Runs.of_ask continued
      obtain ⟨_, _, rfl, logged⟩ := timed.of_ask
      obtain ⟨rfl, same⟩ := logged.of_result
      cases same
      refine Or.inr ⟨time, rfl, ?_, rfl⟩
      rw [stopwatchReadings_append, List.getLast?_append]
      rfl
  · cases same

theorem stop_effect {sampler after : Sampler} {steps : List Step} {outcome : Except Fault Unit}
    (run : sampler.stop.Runs steps (.result (after, outcome))) :
    after = { sampler with running := false } := by
  rcases Runs.of_attempt_bind run with ⟨tried, first, rest, rfl, _, continued⟩ | ⟨_, same⟩
  · rcases tried with fault | _
    · cases (Runs.of_result continued).2
      rfl
    · obtain ⟨_, _, rfl, logged⟩ := Runs.of_ask continued
      cases logged.of_result.2
      rfl
  · cases same

/-- A poll that ended well counts as a tick, and the limits are looked at with the time of its end. -/
theorem Tick.met {sampler after : Sampler} {take : Sample → Program Unit} {steps : List Step}
    {taken samples : List Sample} {time : Binary64}
    (tick : Tick sampler take steps taken (.result (after, .ok samples))) (ends : EndsAt steps time) :
    ∃ reached, after =
        { sampler with tickCount := sampler.tickCount + 1, completed := sampler.completed || reached } ∧
      (reached = true ↔
        sampler.limits.Met (sampler.startTime.getD Binary64.zero) (sampler.tickCount + 1) time) := by
  generalize same : (Except.ok samples : Except Fault (List Sample)) = outcome at tick
  cases tick with
  | unread => cases same
  | refused => cases same
  | @counted measuring handing judging _ verdict _ _ judges =>
    have judging : EndsAt judging time := by
      intro reading last
      refine ends.of_append.of_append reading ?_
      rw [stopwatchReadings_append, announcement_readings, List.append_nil]
      exact last
    cases verdict with
    | error => cases same
    | ok reached =>
      refine ⟨reached, ?_, judges.met judging⟩
      cases reached <;> simp [judged, ticked]

/-- A poll that fails leaves the sampler as it was, where the limits are numbers. -/
theorem poll_effect {sampler after : Sampler} (numbers : sampler.limits = ofNumbers ticks milliseconds)
    {take : Sample → Program Unit} {steps : List Step} {time : Binary64} (ends : EndsAt steps time)
    {outcome : Except Fault (List Sample)} (run : (sampler.poll take).Runs steps (.result (after, outcome))) :
    (Event.poll time outcome).Turns sampler after := by
  cases awake : sampler.running with
  | false =>
    cases (poll_idle awake run).2
    exact .missed
  | true =>
    obtain ⟨taken, tick⟩ := poll_tick awake run
    cases outcome with
    | ok samples =>
      obtain ⟨reached, rfl, met⟩ := tick.met ends
      exact .counted awake met
    | error fault =>
      generalize same : (Except.error fault : Except Fault (List Sample)) = outcome at tick
      cases tick with
      | unread => exact .missed
      | refused => exact .missed
      | counted _ _ judges =>
        obtain ⟨_, rfl⟩ := judges.decides (show sampler.ticked.limits = _ from numbers)
        cases same

namespace Event

theorem Made.turns {event : Event} {sampler after : Sampler} (made : event.Made sampler after)
    (numbers : sampler.limits = ofNumbers ticks milliseconds) :
    event.Turns sampler after := by
  cases made with
  | start run ends =>
    rcases start_effect run with ⟨_, rfl, rfl⟩ | ⟨time, rfl, last, rfl⟩
    · exact .unstarted
    · cases ends time last
      exact .started
  | poll run ends => exact poll_effect numbers ends run
  | stop run =>
    rw [stop_effect run]
    exact .stopped

theorem Turns.limits {event : Event} {sampler after : Sampler}
    (turns : event.Turns sampler after) : after.limits = sampler.limits := by
  cases turns <;> rfl

end Event

/-- A sampler comes from its creation through these events, one after the other. -/
inductive Lifetime (generator : Generator) (limits : AcquisitionLimits) : List Event → Sampler → Prop
  | created : Lifetime generator limits [] (.new generator limits)
  | next {events event sampler after} : Lifetime generator limits events sampler →
      event.Made sampler after → Lifetime generator limits (events ++ [event]) after

/-- The last start that ended well was made at this time, and these events came after it. -/
def SinceStart (events : List Event) (time : Binary64) (later : List Event) : Prop :=
  (∃ before, events = before ++ .start time (.ok ()) :: later) ∧ ∀ event ∈ later, event.starts = false

/-- A start has ended well, and no stop has come after it. -/
def Ongoing (events : List Event) : Prop :=
  ∃ before time later, events = before ++ .start time (.ok ()) :: later ∧
    ∀ event ∈ later, event.stops = false

/-- One of the polls that ended well since a start has reached a limit. -/
def SomeMet (limits : AcquisitionLimits) (start : Binary64) (later : List Event) : Prop :=
  ∃ before time samples after, later = before ++ .poll time (.ok samples) :: after ∧
    limits.Met start (before.countP Event.polls + 1) time

/-- The state of a sampler, as its history tells it. -/
structure Reflects (limits : AcquisitionLimits) (events : List Event) (sampler : Sampler) :
    Prop where
  unstarted : (∀ event ∈ events, event.starts = false) → sampler.tickCount = 0
  counts : ∀ time later, SinceStart events time later → sampler.tickCount = later.countP Event.polls
  running : sampler.running = true ↔ Ongoing events
  started : ∀ time later, SinceStart events time later → sampler.startTime = some time
  completed : sampler.completed = true ↔
    ∃ time later, SinceStart events time later ∧ SomeMet limits time later

section
variable {limits : AcquisitionLimits} {events later before : List Event} {event first : Event}
  {time start : Binary64}

/-- Where one more event comes last, a place among the events is the last one or one among the others. -/
theorem append_singleton_eq : events ++ [event] = before ++ first :: later ↔
    (later = [] ∧ before = events ∧ first = event) ∨
      ∃ rest, later = rest ++ [event] ∧ events = before ++ first :: rest := by
  constructor
  · intro same
    rcases List.eq_nil_or_concat' later with rfl | ⟨rest, last, rfl⟩
    · obtain ⟨rfl, rfl⟩ := List.append_singleton_inj.mp same
      exact Or.inl ⟨rfl, rfl, rfl⟩
    · rw [← List.cons_append, ← List.append_assoc] at same
      obtain ⟨rfl, rfl⟩ := List.append_singleton_inj.mp same
      exact Or.inr ⟨rest, rfl, rfl⟩
  · rintro (⟨rfl, rfl, rfl⟩ | ⟨rest, rfl, rfl⟩)
    · rfl
    · rw [List.append_assoc, List.cons_append]

theorem Event.eq_of_starts (starts : event.starts = true) : ∃ time, event = .start time (.ok ()) := by
  cases event with
  | start time outcome =>
    cases outcome with
    | error => cases starts
    | ok _ => exact ⟨time, rfl⟩
  | poll => cases starts
  | stop => cases starts

theorem sinceStart_start {again : Binary64} :
    SinceStart (events ++ [.start again (.ok ())]) time later ↔ time = again ∧ later = [] := by
  constructor
  · rintro ⟨⟨before, split⟩, others⟩
    rcases append_singleton_eq.mp split with ⟨rfl, _, same⟩ | ⟨rest, rfl, _⟩
    · cases same
      exact ⟨rfl, rfl⟩
    · cases others _ List.mem_concat_self
  · rintro ⟨rfl, rfl⟩
    exact ⟨⟨events, rfl⟩, List.forall_mem_nil _⟩

theorem sinceStart_other (other : event.starts = false) :
    SinceStart (events ++ [event]) time later ↔
      ∃ rest, later = rest ++ [event] ∧ SinceStart events time rest := by
  constructor
  · rintro ⟨⟨before, split⟩, others⟩
    rcases append_singleton_eq.mp split with ⟨_, _, rfl⟩ | ⟨rest, rfl, place⟩
    · cases other
    · exact ⟨rest, rfl, ⟨before, place⟩, fun each member => others each (List.mem_append_left _ member)⟩
  · rintro ⟨rest, rfl, ⟨before, rfl⟩, others⟩
    refine ⟨⟨before, append_singleton_eq.mpr (Or.inr ⟨rest, rfl, rfl⟩)⟩, ?_⟩
    exact List.forall_mem_append.mpr ⟨others, List.forall_mem_singleton.mpr other⟩

/-- Where some start has ended well, there is a last one. -/
theorem exists_sinceStart (member : event ∈ events) (starts : event.starts = true) :
    ∃ time later, SinceStart events time later := by
  induction events using List.reverseRecOn with
  | nil => cases member
  | append_singleton events last ih =>
    cases again : last.starts with
    | true =>
      obtain ⟨time, rfl⟩ := Event.eq_of_starts again
      exact ⟨time, [], sinceStart_start.mpr ⟨rfl, rfl⟩⟩
    | false =>
      rcases List.mem_append.mp member with among | same
      · obtain ⟨time, later, since⟩ := ih among
        exact ⟨time, later ++ [last], (sinceStart_other again).mpr ⟨later, rfl, since⟩⟩
      · cases List.mem_singleton.mp same
        cases starts.symm.trans again

theorem Ongoing.exists_sinceStart (ongoing : Ongoing events) :
    ∃ time later, SinceStart events time later := by
  obtain ⟨before, time, later, rfl, _⟩ := ongoing
  exact Sampler.exists_sinceStart (List.mem_append_right _ List.mem_cons_self) rfl

theorem ongoing_start : Ongoing (events ++ [.start time (.ok ())]) :=
  ⟨events, time, [], rfl, List.forall_mem_nil _⟩

theorem not_ongoing_stop {outcome : Except Fault Unit} : ¬ Ongoing (events ++ [.stop outcome]) := by
  rintro ⟨before, time, later, split, others⟩
  rcases append_singleton_eq.mp split with ⟨_, _, same⟩ | ⟨rest, rfl, _⟩
  · cases same
  · cases others _ List.mem_concat_self

theorem ongoing_other (other : event.starts = false) (goes : event.stops = false) :
    Ongoing (events ++ [event]) ↔ Ongoing events := by
  constructor
  · rintro ⟨before, time, later, split, others⟩
    rcases append_singleton_eq.mp split with ⟨_, _, rfl⟩ | ⟨rest, rfl, place⟩
    · cases other
    · exact ⟨before, time, rest, place, fun each member => others each (List.mem_append_left _ member)⟩
  · rintro ⟨before, time, later, rfl, others⟩
    refine ⟨before, time, later ++ [event], append_singleton_eq.mpr (Or.inr ⟨later, rfl, rfl⟩), ?_⟩
    exact List.forall_mem_append.mpr ⟨others, List.forall_mem_singleton.mpr goes⟩

theorem not_someMet_nil : ¬ SomeMet limits start [] := by
  rintro ⟨before, _, _, _, split, _⟩
  cases before <;> cases split

theorem someMet_append : SomeMet limits start (later ++ [event]) ↔
    SomeMet limits start later ∨ ∃ time samples, event = .poll time (.ok samples) ∧
      limits.Met start (later.countP Event.polls + 1) time := by
  constructor
  · rintro ⟨before, time, samples, after, split, met⟩
    rcases append_singleton_eq.mp split with ⟨_, rfl, rfl⟩ | ⟨rest, _, place⟩
    · exact Or.inr ⟨time, samples, rfl, met⟩
    · exact Or.inl ⟨before, time, samples, rest, place, met⟩
  · rintro (⟨before, time, samples, after, rfl, met⟩ | ⟨time, samples, rfl, met⟩)
    · exact ⟨before, time, samples, after ++ [event],
        append_singleton_eq.mpr (Or.inr ⟨after, rfl, rfl⟩), met⟩
    · exact ⟨later, time, samples, [], rfl, met⟩

theorem someMet_other (other : event.polls = false) : SomeMet limits start (later ++ [event]) ↔
    SomeMet limits start later := by
  rw [someMet_append, or_iff_left]
  rintro ⟨_, _, rfl, _⟩
  cases other

theorem countP_append_other (other : event.polls = false) :
    (later ++ [event]).countP Event.polls = later.countP Event.polls := by
  rw [List.countP_append, List.countP_singleton, other]
  rfl

end

section
variable {limits : AcquisitionLimits} {events : List Event} {event : Event} {sampler after : Sampler}

theorem Reflects.created (generator : Generator) (limits : AcquisitionLimits) :
    Reflects limits [] (.new generator limits) where
  unstarted := fun _ => rfl
  counts := by
    rintro time later ⟨⟨before, split⟩, _⟩
    cases before <;> cases split
  running := by
    refine iff_of_false Bool.false_ne_true ?_
    rintro ⟨before, _, _, split, _⟩
    cases before <;> cases split
  started := by
    rintro time later ⟨⟨before, split⟩, _⟩
    cases before <;> cases split
  completed := by
    refine iff_of_false Bool.false_ne_true ?_
    rintro ⟨time, later, ⟨⟨before, split⟩, _⟩, _⟩
    cases before <;> cases split

/-- An event that is neither a good start nor a good poll can only change whether the sampler runs. -/
theorem Reflects.aside (reflects : Reflects limits events sampler)
    (other : event.starts = false) (missed : event.polls = false) (running : Bool)
    (ongoing : running = true ↔ Ongoing (events ++ [event])) :
    Reflects limits (events ++ [event]) { sampler with running := running } where
  unstarted := fun none => reflects.unstarted fun each member => none each (List.mem_append_left _ member)
  counts := by
    intro time later since
    obtain ⟨rest, rfl, earlier⟩ := (sinceStart_other other).mp since
    rw [countP_append_other missed]
    exact reflects.counts time rest earlier
  running := ongoing
  started := by
    intro time later since
    obtain ⟨rest, _, earlier⟩ := (sinceStart_other other).mp since
    exact reflects.started time rest earlier
  completed := by
    refine reflects.completed.trans ⟨?_, ?_⟩
    · rintro ⟨time, later, since, met⟩
      exact ⟨time, _, (sinceStart_other other).mpr ⟨later, rfl, since⟩, (someMet_other missed).mpr met⟩
    · rintro ⟨time, later, since, met⟩
      obtain ⟨rest, rfl, earlier⟩ := (sinceStart_other other).mp since
      exact ⟨time, rest, earlier, (someMet_other missed).mp met⟩

theorem Reflects.restarted (time : Binary64) :
    Reflects limits (events ++ [.start time (.ok ())])
      { sampler with tickCount := 0, completed := false, running := true, startTime := some time } where
  unstarted := fun _ => rfl
  counts := by
    intro since later last
    obtain ⟨rfl, rfl⟩ := sinceStart_start.mp last
    rfl
  running := iff_of_true rfl ongoing_start
  started := by
    intro since later last
    rw [(sinceStart_start.mp last).1]
  completed := by
    refine iff_of_false Bool.false_ne_true ?_
    rintro ⟨since, later, last, met⟩
    rw [(sinceStart_start.mp last).2] at met
    exact not_someMet_nil met

/-- One more poll that ended well counts, and it completes the acquisition where it has reached a limit. -/
theorem Reflects.counted (reflects : Reflects limits events sampler)
    (own : sampler.limits = limits) (running : sampler.running = true) {time : Binary64}
    {samples : List Sample} {reached : Bool}
    (met : reached = true ↔
      sampler.limits.Met (sampler.startTime.getD Binary64.zero) (sampler.tickCount + 1) time) :
    Reflects limits (events ++ [.poll time (.ok samples)])
      { sampler with tickCount := sampler.tickCount + 1, completed := sampler.completed || reached } := by
  have ongoing := reflects.running.mp running
  obtain ⟨start, recent, since⟩ := ongoing.exists_sinceStart
  have limit : ∀ start recent, SinceStart events start recent →
      (reached = true ↔ limits.Met start (recent.countP Event.polls + 1) time) := by
    intro start recent since
    rw [met, own, reflects.started start recent since, reflects.counts start recent since]
    rfl
  refine ⟨?_, ?_, ?_, ?_, ?_⟩
  · intro none
    obtain ⟨⟨before, rfl⟩, _⟩ := since
    cases none _ (List.mem_append_left _ (List.mem_append_right _ List.mem_cons_self))
  · intro start later since
    obtain ⟨rest, rfl, earlier⟩ := (sinceStart_other rfl).mp since
    rw [List.countP_append, ← reflects.counts start rest earlier]
    rfl
  · exact iff_of_true running ((ongoing_other rfl rfl).mpr ongoing)
  · intro start later since
    obtain ⟨rest, _, earlier⟩ := (sinceStart_other rfl).mp since
    exact reflects.started start rest earlier
  · rw [Bool.or_eq_true]
    constructor
    · rintro (complete | now)
      · obtain ⟨start, rest, since, some⟩ := reflects.completed.mp complete
        exact ⟨start, _, (sinceStart_other rfl).mpr ⟨rest, rfl, since⟩, someMet_append.mpr (Or.inl some)⟩
      · refine ⟨start, _, (sinceStart_other rfl).mpr ⟨recent, rfl, since⟩, someMet_append.mpr (Or.inr ?_)⟩
        exact ⟨time, samples, rfl, (limit start recent since).mp now⟩
    · rintro ⟨start, later, since, some⟩
      obtain ⟨rest, rfl, earlier⟩ := (sinceStart_other rfl).mp since
      rcases someMet_append.mp some with before | ⟨_, _, same, now⟩
      · exact Or.inl (reflects.completed.mpr ⟨start, rest, earlier, before⟩)
      · cases same
        exact Or.inr ((limit start rest earlier).mpr now)

theorem Reflects.next (reflects : Reflects limits events sampler) (own : sampler.limits = limits)
    (turns : event.Turns sampler after) :
    Reflects limits (events ++ [event]) after := by
  cases turns with
  | started => exact .restarted _
  | counted running met => exact reflects.counted own running met
  | unstarted => exact reflects.aside rfl rfl _ (reflects.running.trans (ongoing_other rfl rfl).symm)
  | missed => exact reflects.aside rfl rfl _ (reflects.running.trans (ongoing_other rfl rfl).symm)
  | stopped => exact reflects.aside rfl rfl _ (iff_of_false Bool.false_ne_true not_ongoing_stop)

end

/-- Induction on the history. -/
theorem Lifetime.reflects {generator : Generator} {events : List Event} {sampler : Sampler}
    (lifetime : Lifetime generator (ofNumbers ticks milliseconds) events sampler) :
    sampler.limits = ofNumbers ticks milliseconds ∧
      Reflects (ofNumbers ticks milliseconds) events sampler := by
  induction lifetime with
  | created => exact ⟨rfl, .created _ _⟩
  | next _ made ih =>
    have turns := made.turns ih.1
    exact ⟨turns.limits.trans ih.1, ih.2.next ih.1 turns⟩

/-- Where polls have been counted, there is a last one. -/
theorem exists_last_poll {later : List Event} (counted : 0 < later.countP Event.polls) :
    ∃ before time samples after, later = before ++ .poll time (.ok samples) :: after ∧
      later.countP Event.polls = before.countP Event.polls + 1 := by
  induction later using List.reverseRecOn with
  | nil => cases counted
  | append_singleton later last ih =>
    cases polls : last.polls with
    | true =>
      have well : ∃ time samples, last = .poll time (.ok samples) := by
        cases last with
        | poll time outcome =>
          cases outcome with
          | ok samples => exact ⟨time, samples, rfl⟩
          | error => cases polls
        | start => cases polls
        | stop => cases polls
      obtain ⟨time, samples, rfl⟩ := well
      refine ⟨later, time, samples, [], rfl, ?_⟩
      rw [List.countP_append]
      rfl
    | false =>
      rw [countP_append_other polls] at counted ⊢
      obtain ⟨before, time, samples, after, rfl, count⟩ := ih counted
      exact ⟨before, time, samples, after ++ [last],
        append_singleton_eq.mpr (Or.inr ⟨after, rfl, rfl⟩), count⟩

/-- With a limit on the ticks and no other one, the number of ticks tells whether the acquisition is
complete. -/
theorem Reflects.completed_iff {events : List Event} {sampler : Sampler} {limit : Number}
    (reflects : Reflects (ofNumbers (some limit) none) events sampler)
    (positive : (Number.integer 1).isAtMost limit = true) :
    sampler.completed = true ↔ limit.isAtMost (.integer sampler.tickCount) = true := by
  have met : ∀ start count time,
      (ofNumbers (some limit) none).Met start count time ↔ limit.isAtMost (.integer count) = true := by
    intro start count time
    simp [AcquisitionLimits.Met, ofNumbers]
  rw [reflects.completed]
  constructor
  · rintro ⟨start, later, since, before, time, samples, after, rfl, reached⟩
    rw [reflects.counts start _ since]
    refine Number.isAtMost_mono ?_ ((met _ _ _).mp reached)
    rw [List.countP_append, List.countP_cons_of_pos rfl]
    omega
  · intro reached
    have one := Number.one_le_of_isAtMost positive reached
    by_cases none : ∀ event ∈ events, event.starts = false
    · rw [reflects.unstarted none] at one
      cases one
    · obtain ⟨event, member, starts⟩ : ∃ event ∈ events, event.starts = true := by simpa using none
      obtain ⟨start, later, since⟩ := exists_sinceStart member starts
      have counts := reflects.counts start later since
      have polled : 0 < later.countP Event.polls := by omega
      obtain ⟨before, time, samples, after, rfl, count⟩ := exists_last_poll polled
      refine ⟨start, _, since, before, time, samples, after, rfl, (met _ _ _).mpr ?_⟩
      rwa [← count, ← counts]

/-- The state of a sampler after any history, with any port, stopwatch and listener. A start that fails
changes nothing, a stop always stops, and a sampler that is not running only refuses to poll. -/
theorem state_of_history {generator : Generator} {events : List Event} {sampler : Sampler}
    (lifetime : Lifetime generator (ofNumbers ticks milliseconds) events sampler) :
    Reflects (ofNumbers ticks milliseconds) events sampler ∧
      (sampler.running = true → ∃ time, sampler.startTime = some time) ∧
      (∀ steps after fault, sampler.start.Runs steps (.result (after, .error fault)) → after = sampler) ∧
      (∀ steps after outcome, sampler.stop.Runs steps (.result (after, outcome)) →
        after = { sampler with running := false }) ∧
      (sampler.running = false → ∀ take steps ending, (sampler.poll take).Runs steps ending →
        steps = [] ∧ ending = .result (sampler, .error .samplerNotRunning)) ∧
      ∀ limit, ticks = some limit → milliseconds = none → (Number.integer 1).isAtMost limit = true →
        (sampler.completed = true ↔ limit.isAtMost (.integer sampler.tickCount) = true) := by
  obtain ⟨_, reflects⟩ := lifetime.reflects
  refine ⟨reflects, ?_, ?_, fun _ _ _ => stop_effect, fun idle _ _ _ => poll_idle idle, ?_⟩
  · intro running
    obtain ⟨start, later, since⟩ := (reflects.running.mp running).exists_sinceStart
    exact ⟨start, reflects.started start later since⟩
  · intro steps after fault run
    rcases start_effect run with ⟨_, _, same⟩ | ⟨_, impossible, _⟩
    · exact same
    · cases impossible
  · rintro limit rfl rfl positive
    exact reflects.completed_iff positive

/-- A single tick is enough, and then the counter does not answer when it is turned off. -/
theorem state_of_history_single :
    let generator : Generator := ⟨⟨0, "bench"⟩, ⟨"MHS-25A", .integer 25000000⟩⟩
    ∃ time ended samples fault sampler,
      Lifetime generator (ofNumbers (some (.integer 1)) none)
        [.start time (.ok ()), .poll ended (.ok samples), .stop (.error fault)] sampler ∧
      Reflects (ofNumbers (some (.integer 1)) none)
        [.start time (.ok ()), .poll ended (.ok samples), .stop (.error fault)] sampler ∧
      sampler.running = false ∧ sampler.completed = true := by
  intro generator
  let sampler := Sampler.new generator (ofNumbers (some (.integer 1)) none)
  let bench := Bench.answering ["ok\n", "ok\n", "ok\n", ":r0e100\n", "ok\n", ":r0e200\n", "ok\n", ":r0e300\n",
    "ok\n", ":r0e400\n", "no\n"]
  let time := Binary64.ofDecimal false 2 (-3)
  let started : Sampler := { sampler with running := true, startTime := some time }
  let second := (sampler.start.runOn bench).2
  let seconds (n : Int) := (Binary64.ofInt n).mul CounterFunction.nanosecond
  let samples := [CounterFunction.frequency.sample (.ofInt 10), CounterFunction.period.sample (seconds 200),
    CounterFunction.dutyCycle.sample (.ofInt 30), CounterFunction.pulseWidth.sample (seconds 400)]
  let polled : Sampler := { started with tickCount := 1, completed := true }
  let third := ((started.poll Program.deliver).runOn second).2
  let fault := Fault.notAcknowledged ":s6b0" "no"
  have starting := sampler.start.runs_runOn bench
  have polling := (started.poll Program.deliver).runs_runOn second
  have stopping := polled.stop.runs_runOn third
  rw [show (sampler.start.runOn bench).1 = .result (started, .ok ()) by decide +kernel] at starting
  rw [show ((started.poll Program.deliver).runOn second).1 = .result (polled, .ok samples) by
    decide +kernel] at polling
  rw [show (polled.stop.runOn third).1 = .result ({ polled with running := false }, .error fault) by
    decide +kernel] at stopping
  have shown : EndsAt (sampler.start.stepsOn bench) time := by decide +kernel
  have left : EndsAt ((started.poll Program.deliver).stepsOn second) time := by decide +kernel
  have lifetime := ((Lifetime.created.next (.start starting shown)).next (.poll polling left)).next
    (.stop stopping)
  exact ⟨time, time, samples, fault, _, lifetime, (state_of_history lifetime).1, rfl, rfl⟩

end Sampler

end SignalGenerator
