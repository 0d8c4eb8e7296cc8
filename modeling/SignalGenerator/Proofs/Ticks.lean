import SignalGenerator.Proofs.Decoding
import SignalGenerator.Proofs.Dialogue
import SignalGenerator.Proofs.Plan
import SignalGenerator.Proofs.Readings

/-!
One poll of the counter as a whole. Every function is selected and its number is read right after; only when
all of them were read are the samples handed over, and only when all of them were taken does the tick
count. Main statement: whatever goes wrong, nothing is handed over in parts of a measurement, and the sampler
is left as it was.
-/

namespace SignalGenerator

open Program (Runs)

theorem Program.Runs.of_ofExcept {α : Type} {answer : Except Fault α} {steps : List Step}
    {ending : Outcome α} (run : (Program.ofExcept answer).Runs steps ending) :
    steps = [] ∧ ending = .ofExcept answer := by
  cases answer with
  | ok value => exact run.of_result
  | error fault => exact run.of_fail

namespace Counter

/-- How a function can be selected and its number read right after. Each command has its own answer before
anything else is written. -/
inductive Reads (port : Port) (function : CounterFunction) : List Step → Except Fault Int → Prop
  | unselected {steps fault} : (selectFunction port function).Runs steps (.fault fault) →
      (Command.selectFunction function).transaction.Makes port (portCalls steps) none →
      Reads port function steps (.error fault)
  | unread {selecting reading reply fault} : (selectFunction port function).Runs selecting (.result ()) →
      (Command.selectFunction function).transaction.Makes port (portCalls selecting) (some reply) →
      (readRegister port).Runs reading (.fault fault) →
      Command.readCounter.transaction.Makes port (portCalls reading) none →
      Reads port function (selecting ++ reading) (.error fault)
  | read {selecting reading reply raw} : (selectFunction port function).Runs selecting (.result ()) →
      (Command.selectFunction function).transaction.Makes port (portCalls selecting) (some reply) →
      (readRegister port).Runs reading (.result raw) →
      Exchanged port .readCounter raw (portCalls reading) →
      Reads port function (selecting ++ reading) (.ok raw)

theorem selectFunction_runs {port : Port} {function : CounterFunction} {steps : List Step}
    {ending : Outcome Unit} (run : (selectFunction port function).Runs steps ending) :
    (∃ reply, ending = .result () ∧
        (Command.selectFunction function).transaction.Makes port (portCalls steps) (some reply)) ∨
      ∃ fault, ending = .fault fault ∧
        (Command.selectFunction function).transaction.Makes port (portCalls steps) none := by
  have ended := Exchange.order_runs run
  generalize portCalls steps = calls at ended ⊢
  cases ended with
  | unencodable unframed => cases function <;> cases unframed
  | failed made => exact Or.inr ⟨_, rfl, made⟩
  | answered made _ => exact Or.inl ⟨_, rfl, made⟩

theorem frame_readCounter : ∃ line, Exchange.frame Command.readCounter.text = .ok line := ⟨_, rfl⟩

/-- A number that was read is a value of the function, since a reply is short. -/
theorem measure_runs {port : Port} {function : CounterFunction} {steps : List Step}
    {ending : Outcome Binary64} (run : (measure port function).Runs steps ending) :
    (∃ value, ending = .result value ∧
        ∃ raw, Reads port function steps (.ok raw) ∧ function.decode raw = .ok value) ∨
      ∃ fault, ending = .fault fault ∧ Reads port function steps (.error fault) := by
  rcases run.of_bind with ⟨_, first, rest, rfl, selecting, continued⟩ | ⟨fault, failed, rfl⟩ |
    ⟨stuck, _⟩
  · rcases selectFunction_runs selecting with ⟨reply, _, made⟩ | ⟨_, same, _⟩
    · rcases Runs.of_bind continued with ⟨raw, second, last, rfl, reading, decoding⟩ |
        ⟨fault, failed, rfl⟩ | ⟨stuck, _⟩
      · rcases Setting.read_runs frame_readCounter reading with ⟨_, same, exchanged⟩ | ⟨_, same, _⟩
        · cases same
          obtain ⟨value, decoded, _⟩ := function.decode_finite exchanged.natAbs_lt
          rw [decoded] at decoding
          obtain ⟨rfl, rfl⟩ := Runs.of_result decoding
          rw [List.append_nil]
          exact Or.inl ⟨value, rfl, raw, .read selecting made reading exchanged, decoded⟩
        · cases same
      · rcases Setting.read_runs frame_readCounter failed with ⟨_, same, _⟩ | ⟨_, same, unanswered⟩
        · cases same
        · cases same
          exact Or.inr ⟨fault, rfl, .unread selecting made failed unanswered⟩
      · rcases Setting.read_runs frame_readCounter stuck with ⟨_, same, _⟩ | ⟨_, same, _⟩ <;> cases same
    · cases same
  · rcases selectFunction_runs failed with ⟨_, same, _⟩ | ⟨_, same, made⟩
    · cases same
    · cases same
      exact Or.inr ⟨fault, rfl, .unselected failed made⟩
  · rcases selectFunction_runs stuck with ⟨_, same, _⟩ | ⟨_, same, _⟩ <;> cases same

/-- The line for a command that is always the same. -/
def lineOf (command : Command) : List UInt8 := asciiBytes (command.text ++ "\n").toList

/-- The lines in which functions are selected and read, one after the other. -/
def linesFor (functions : List CounterFunction) : List (List UInt8) :=
  functions.flatMap fun function => [lineOf (.selectFunction function), lineOf .readCounter]

section
variable {port : Port} {function : CounterFunction} {calls steps : List Step}

theorem selecting_lines {calls : List PortCall} {accepted : Option (List UInt8)}
    (made : (Command.selectFunction function).transaction.Makes port calls accepted) :
    linesOn port calls = [lineOf (.selectFunction function)] := by
  obtain ⟨⟨line, lines, framed⟩, _⟩ := made.linesOn
  cases function <;> cases framed <;> exact lines

theorem reading_lines {calls : List PortCall} {accepted : Option (List UInt8)}
    (made : Command.readCounter.transaction.Makes port calls accepted) :
    linesOn port calls = [lineOf .readCounter] := by
  obtain ⟨⟨line, lines, framed⟩, _⟩ := made.linesOn
  cases framed
  exact lines

theorem Reads.lines_ok {raw : Int} (reads : Reads port function steps (.ok raw)) :
    linesOn port (portCalls steps) = linesFor [function] := by
  cases reads with
  | read _ selected _ exchanged =>
    obtain ⟨_, _, made⟩ := exchanged.makes
    rw [portCalls_append, linesOn_append, selecting_lines selected, reading_lines made]
    rfl

theorem Reads.lines_error {fault : Fault} (reads : Reads port function steps (.error fault)) :
    linesOn port (portCalls steps) <+: linesFor [function] := by
  cases reads with
  | unselected _ made =>
    rw [selecting_lines made]
    exact List.prefix_append _ [lineOf .readCounter]
  | unread _ selected _ made =>
    rw [portCalls_append, linesOn_append, selecting_lines selected, reading_lines made]
    exact List.prefix_refl _

end

end Counter

namespace CounterFunction

/-- A value as a sample of the function. -/
def sample (function : CounterFunction) (value : Binary64) : Sample :=
  ⟨function.quantity, value, function.unit⟩

end CounterFunction

namespace Sampler

/-- Functions are read one after the other, up to the first one that cannot be read. -/
inductive Measures (port : Port) : List CounterFunction → List Step → Except Fault (List Sample) → Prop
  | nil : Measures port [] [] (.ok [])
  | failed {function functions steps fault} : Counter.Reads port function steps (.error fault) →
      Measures port (function :: functions) steps (.error fault)
  | next {function functions first rest raw value outcome} : Counter.Reads port function first (.ok raw) →
      function.decode raw = .ok value → Measures port functions rest outcome →
      Measures port (function :: functions) (first ++ rest) (outcome.map (function.sample value :: ·))

/-- Samples are handed over one after the other, and all of them are taken. -/
inductive HandsOver (take : Sample → Program Unit) : List Sample → List Step → Prop
  | nil : HandsOver take [] []
  | next {sample samples first rest} : (take sample).Runs first (.result ()) →
      HandsOver take samples rest → HandsOver take (sample :: samples) (first ++ rest)

/-- Whether a limit is reached, as the number of ticks tells or else the stopwatch. A limit without a value
does not tell. -/
inductive Judges (sampler : Sampler) : List Step → Except Fault Bool → Prop
  | undecided {fault} : AcquisitionLimits.reached .limitSamples sampler.limits.ticks
        (.integer sampler.tickCount) = .error fault →
      Judges sampler [] (.error fault)
  | counted : AcquisitionLimits.reached .limitSamples sampler.limits.ticks
        (.integer sampler.tickCount) = .ok true →
      Judges sampler [] (.ok true)
  | timed {time : Binary64} : AcquisitionLimits.reached .limitSamples sampler.limits.ticks
        (.integer sampler.tickCount) = .ok false →
      Judges sampler [⟨.stopwatch, time⟩] (AcquisitionLimits.reached .limitMsec
        sampler.limits.milliseconds (elapsedMilliseconds (sampler.startTime.getD Binary64.zero) time))

/-- The state after one more tick. -/
def ticked (sampler : Sampler) : Sampler := { sampler with tickCount := sampler.tickCount + 1 }

/-- The state that a verdict on the limits leaves. -/
def judged (sampler : Sampler) (verdict : Except Fault Bool) : Sampler :=
  { sampler with completed := sampler.completed || decide (verdict = .ok true) }

/-- What a sampler says when it has reached a limit. -/
def announcement (sampler : Sampler) (verdict : Except Fault Bool) : List Step :=
  if verdict = .ok true then
    [⟨.log .info s!"Acquisition limit reached after {sampler.tickCount} ticks", ()⟩]
  else []

@[simp] theorem judged_of_ne {sampler : Sampler} {verdict : Except Fault Bool}
    (other : verdict ≠ .ok true) :
    sampler.judged verdict = sampler := by
  rw [judged, decide_eq_false other, Bool.or_false]

@[simp] theorem judged_reached (sampler : Sampler) :
    sampler.judged (.ok true) = { sampler with completed := true } := by
  rw [judged, decide_eq_true rfl, Bool.or_true]

@[simp] theorem announcement_of_ne {sampler : Sampler} {verdict : Except Fault Bool}
    (other : verdict ≠ .ok true) : announcement sampler verdict = [] := if_neg other

/-- How a poll of a running sampler can go and end, with the samples that were taken from it. -/
inductive Tick (sampler : Sampler) (take : Sample → Program Unit) :
    List Step → List Sample → Outcome (Sampler × Except Fault (List Sample)) → Prop
  /-- A transaction failed. -/
  | unread {steps fault} :
      Measures sampler.generator.port CounterFunction.pollingOrder steps (.error fault) →
      Tick sampler take steps [] (.result (sampler, .error fault))
  /-- A sample was refused. -/
  | refused {measuring handing refusing taken sample left fault} :
      Measures sampler.generator.port CounterFunction.pollingOrder measuring
        (.ok (taken ++ sample :: left)) →
      HandsOver take taken handing → (take sample).Runs refusing (.fault fault) →
      Tick sampler take (measuring ++ (handing ++ refusing)) taken (.result (sampler, .error fault))
  /-- A sample is still being taken. -/
  | stuck {measuring handing taking taken sample left} :
      Measures sampler.generator.port CounterFunction.pollingOrder measuring
        (.ok (taken ++ sample :: left)) →
      HandsOver take taken handing → (take sample).Runs taking .unfinished →
      Tick sampler take (measuring ++ (handing ++ taking)) taken .unfinished
  | counted {measuring handing judging samples verdict} :
      Measures sampler.generator.port CounterFunction.pollingOrder measuring (.ok samples) →
      HandsOver take samples handing → Judges sampler.ticked judging verdict →
      Tick sampler take
        (measuring ++ (handing ++ (judging ++ announcement sampler.ticked verdict))) samples
        (.result (sampler.ticked.judged verdict, verdict.map fun _ => samples))

theorem measureEach_runs {generator : Generator} {functions : List CounterFunction} {steps : List Step}
    {ending : Outcome (List Sample)} (run : (measureEach generator functions).Runs steps ending) :
    ∃ outcome, ending = .ofExcept outcome ∧ Measures generator.port functions steps outcome := by
  induction functions generalizing steps ending with
  | nil =>
    obtain ⟨rfl, rfl⟩ := Runs.of_result run
    exact ⟨.ok [], rfl, .nil⟩
  | cons function rest ih =>
    rcases Runs.of_bind run with ⟨value, first, later, rfl, measuring, continued⟩ | ⟨fault, failed, rfl⟩ |
      ⟨stuck, _⟩
    · rcases Counter.measure_runs measuring with ⟨_, same, raw, reads, decoded⟩ | ⟨_, same, _⟩
      · cases same
        rcases Runs.of_bind continued with ⟨samples, second, last, rfl, measured, done⟩ |
          ⟨fault, failed, rfl⟩ | ⟨stuck, _⟩
        · obtain ⟨rfl, rfl⟩ := Runs.of_result done
          obtain ⟨outcome, same, measures⟩ := ih measured
          cases Outcome.ofExcept_eq_result.mp same.symm
          rw [List.append_nil]
          exact ⟨_, rfl, .next reads decoded measures⟩
        · obtain ⟨outcome, same, measures⟩ := ih failed
          cases Outcome.ofExcept_eq_fault.mp same.symm
          exact ⟨_, rfl, .next reads decoded measures⟩
        · obtain ⟨outcome, same, _⟩ := ih stuck
          cases outcome <;> cases same
      · cases same
    · rcases Counter.measure_runs failed with ⟨_, same, _⟩ | ⟨_, same, unread⟩
      · cases same
      · cases same
        exact ⟨_, rfl, .failed unread⟩
    · rcases Counter.measure_runs stuck with ⟨_, same, _⟩ | ⟨_, same, _⟩ <;> cases same

/-- How handing over can go: all samples are taken, or there is a first one that is not. -/
theorem deliverEach_runs {take : Sample → Program Unit} {samples : List Sample} {steps : List Step}
    {ending : Outcome Unit} (run : (deliverEach take samples).Runs steps ending) :
    (ending = .result () ∧ HandsOver take samples steps) ∨
      ∃ taken sample left handing last, samples = taken ++ sample :: left ∧ steps = handing ++ last ∧
        HandsOver take taken handing ∧ (take sample).Runs last ending ∧ ending ≠ .result () := by
  induction samples generalizing steps with
  | nil =>
    obtain ⟨rfl, rfl⟩ := Runs.of_result run
    exact Or.inl ⟨rfl, .nil⟩
  | cons sample rest ih =>
    rcases Runs.of_bind run with ⟨_, first, later, rfl, taking, continued⟩ | ⟨fault, failed, rfl⟩ |
      ⟨stuck, rfl⟩
    · rcases ih continued with ⟨rfl, all⟩ |
        ⟨taken, refused, left, handing, last, rfl, rfl, taking', ended, incomplete⟩
      · exact Or.inl ⟨rfl, .next taking all⟩
      · refine Or.inr ⟨sample :: taken, refused, left, first ++ handing, last, rfl, ?_, ?_, ended,
          incomplete⟩
        · rw [List.append_assoc]
        · exact .next taking taking'
    · exact Or.inr ⟨[], sample, rest, [], steps, rfl, rfl, .nil, failed, nofun⟩
    · exact Or.inr ⟨[], sample, rest, [], steps, rfl, rfl, .nil, stuck, nofun⟩

theorem limitReached_runs {sampler : Sampler} {steps : List Step} {ending : Outcome Bool}
    (run : sampler.limitReached.Runs steps ending) :
    ∃ verdict, ending = .ofExcept verdict ∧ Judges sampler steps verdict := by
  rcases Runs.of_ofExcept_bind run with ⟨reached, decided, continued⟩ | ⟨fault, undecided, rfl, rfl⟩
  · cases reached with
    | true =>
      obtain ⟨rfl, rfl⟩ := Runs.of_result continued
      exact ⟨_, rfl, .counted decided⟩
    | false =>
      obtain ⟨time, rest, rfl, timed⟩ := Runs.of_ask continued
      obtain ⟨rfl, rfl⟩ := Runs.of_ofExcept timed
      exact ⟨_, rfl, .timed decided⟩
  · exact ⟨_, rfl, .undecided undecided⟩

/-- A sampler that is not running is left alone. -/
theorem poll_idle {sampler : Sampler} {take : Sample → Program Unit} {steps : List Step}
    {ending : Outcome (Sampler × Except Fault (List Sample))} (idle : sampler.running = false)
    (run : (sampler.poll take).Runs steps ending) :
    steps = [] ∧ ending = .result (sampler, .error .samplerNotRunning) := by
  unfold poll at run
  rw [idle] at run
  exact Runs.of_result run

/-- After everything was taken the limits are looked at, and the tick counts in any case. -/
theorem Tick.of_counted {sampler : Sampler} {take : Sample → Program Unit}
    {samples : List Sample} {measuring handing rest : List Step}
    {ending : Outcome (Sampler × Except Fault (List Sample))}
    (measures : Measures sampler.generator.port CounterFunction.pollingOrder measuring (.ok samples))
    (hands : HandsOver take samples handing)
    (run : (sampler.ticked.limitReached.attempt.bind fun
      | .error fault => .result (sampler.ticked, .error fault)
      | .ok false => .result (sampler.ticked, .ok samples)
      | .ok true =>
        (Program.info s!"Acquisition limit reached after {sampler.ticked.tickCount} ticks").bind
          fun _ => .result ({ sampler.ticked with completed := true }, .ok samples)).Runs rest ending) :
    Tick sampler take (measuring ++ (handing ++ rest)) samples ending := by
  rcases Runs.of_attempt_bind run with ⟨verdict, judging, last, rfl, limits, concluding⟩ | ⟨stuck, _⟩
  · obtain ⟨other, same, judges⟩ := limitReached_runs limits
    cases Outcome.ofExcept_inj same
    have counted := Tick.counted measures hands judges
    have unreached : verdict ≠ .ok true → Tick sampler take (measuring ++ (handing ++ (judging ++ [])))
        samples (.result (sampler.ticked, verdict.map fun _ => samples)) := by
      intro other
      rwa [judged_of_ne other, announcement_of_ne other] at counted
    rcases verdict with fault | _ | _
    · obtain ⟨rfl, rfl⟩ := Runs.of_result concluding
      exact unreached nofun
    · obtain ⟨rfl, rfl⟩ := Runs.of_result concluding
      exact unreached nofun
    · obtain ⟨_, _, rfl, said⟩ := Runs.of_ask concluding
      obtain ⟨rfl, rfl⟩ := said.of_result
      rwa [judged_reached] at counted
  · obtain ⟨verdict, same, _⟩ := limitReached_runs stuck
    cases verdict <;> cases same

/-- Measuring and handing over, before the tick counts. -/
theorem gather_runs {sampler : Sampler} {take : Sample → Program Unit} {steps : List Step}
    {ending : Outcome (List Sample)}
    (run : ((measureEach sampler.generator CounterFunction.pollingOrder).bind fun samples =>
      (deliverEach take samples).bind fun _ => .result samples).Runs steps ending) :
    (∃ samples measuring handing, ending = .result samples ∧ steps = measuring ++ handing ∧
        Measures sampler.generator.port CounterFunction.pollingOrder measuring (.ok samples) ∧
        HandsOver take samples handing) ∨
      (∃ taken fault, ending = .fault fault ∧
        Tick sampler take steps taken (.result (sampler, .error fault))) ∨
      ∃ taken, ending = .unfinished ∧ Tick sampler take steps taken .unfinished := by
  rcases Runs.of_bind run with ⟨samples, measuring, later, rfl, measured, delivering⟩ |
    ⟨fault, failed, rfl⟩ | ⟨endless, _⟩
  · obtain ⟨found, same, measures⟩ := measureEach_runs measured
    cases Outcome.ofExcept_eq_result.mp same.symm
    rcases Runs.of_bind delivering with ⟨_, handing, last, rfl, delivered, done⟩ |
      ⟨fault, failed, rfl⟩ | ⟨endless, rfl⟩
    · obtain ⟨rfl, rfl⟩ := Runs.of_result done
      rcases deliverEach_runs delivered with ⟨_, hands⟩ | ⟨_, _, _, _, _, _, _, _, _, incomplete⟩
      · rw [List.append_nil]
        exact Or.inl ⟨samples, measuring, handing, rfl, rfl, measures, hands⟩
      · exact absurd rfl incomplete
    · rcases deliverEach_runs failed with ⟨same, _⟩ |
        ⟨taken, sample, left, handing, last, rfl, rfl, hands, refused, _⟩
      · cases same
      · exact Or.inr (Or.inl ⟨taken, fault, rfl, .refused measures hands refused⟩)
    · rcases deliverEach_runs endless with ⟨same, _⟩ |
        ⟨taken, sample, left, handing, last, rfl, rfl, hands, taking, _⟩
      · cases same
      · exact Or.inr (Or.inr ⟨taken, rfl, .stuck measures hands taking⟩)
  · obtain ⟨found, same, measures⟩ := measureEach_runs failed
    cases Outcome.ofExcept_eq_fault.mp same.symm
    exact Or.inr (Or.inl ⟨[], fault, rfl, .unread measures⟩)
  · obtain ⟨found, same, _⟩ := measureEach_runs endless
    cases found <;> cases same

theorem poll_tick {sampler : Sampler} {take : Sample → Program Unit} {steps : List Step}
    {ending : Outcome (Sampler × Except Fault (List Sample))} (running : sampler.running = true)
    (run : (sampler.poll take).Runs steps ending) : ∃ taken, Tick sampler take steps taken ending := by
  have awake : ¬ (!sampler.running) = true := by rw [running]; decide
  unfold poll at run
  rw [if_neg awake] at run
  rcases Runs.of_attempt_bind run with ⟨outcome, first, rest, rfl, gathering, continued⟩ | ⟨stuck, rfl⟩
  · rcases gather_runs gathering with ⟨samples, measuring, handing, same, rfl, measures, hands⟩ |
      ⟨taken, fault, same, tick⟩ | ⟨_, same, _⟩
    · cases Outcome.ofExcept_eq_result.mp same
      rw [List.append_assoc]
      exact ⟨samples, .of_counted measures hands continued⟩
    · cases Outcome.ofExcept_eq_fault.mp same
      obtain ⟨rfl, rfl⟩ := Runs.of_result continued
      rw [List.append_nil]
      exact ⟨taken, tick⟩
    · cases outcome <;> cases same
  · rcases gather_runs stuck with ⟨_, _, _, same, _⟩ | ⟨_, _, same, _⟩ | ⟨taken, _, tick⟩
    · cases same
    · cases same
    · exact ⟨taken, tick⟩

section
variable {port : Port} {functions : List CounterFunction} {steps : List Step}

/-- However far it gets, the lines are the first ones of those for all functions. -/
theorem Measures.lines {outcome : Except Fault (List Sample)}
    (measures : Measures port functions steps outcome) :
    linesOn port (portCalls steps) <+: Counter.linesFor functions := by
  induction measures with
  | nil => exact List.prefix_refl []
  | @failed function functions _ _ reads =>
    have parts : Counter.linesFor (function :: functions) =
        Counter.linesFor [function] ++ Counter.linesFor functions := rfl
    rw [parts]
    exact reads.lines_error.trans (List.prefix_append _ _)
  | @next function functions first rest _ _ _ reads _ _ ih =>
    rw [portCalls_append, linesOn_append, reads.lines_ok]
    exact (List.prefix_append_right_inj (Counter.linesFor [function])).mpr ih

/-- What was measured is labelled with the functions, in their order. -/
theorem Measures.labels {samples : List Sample} (measures : Measures port functions steps (.ok samples)) :
    samples.map (fun sample => (sample.quantity, sample.unit)) =
      functions.map fun function => (function.quantity, function.unit) := by
  generalize given : Except.ok samples = outcome at measures
  induction measures generalizing samples with
  | nil =>
    cases given
    rfl
  | failed => cases given
  | @next function functions first rest raw value outcome _ _ _ ih =>
    cases outcome with
    | error => cases given
    | ok later =>
      cases given
      rw [List.map_cons, ih rfl, List.map_cons]
      rfl

theorem HandsOver.quiet {listener : Listener} {samples : List Sample}
    (hands : HandsOver listener.take samples steps) : portCalls steps = [] := by
  induction hands with
  | nil => rfl
  | next taking _ ih => rw [portCalls_append, listener.quiet _ _ _ taking, ih, List.append_nil]

theorem Judges.quiet {sampler : Sampler} {verdict : Except Fault Bool}
    (judges : sampler.Judges steps verdict) :
    portCalls steps = [] := by
  cases judges <;> rfl

theorem announcement_quiet (sampler : Sampler) (verdict : Except Fault Bool) :
    portCalls (announcement sampler verdict) = [] := by
  unfold announcement
  split <;> rfl

end

/-- The lines of one poll. -/
def tickLines : List (List UInt8) :=
  [":s0m\n", ":r0e\n", ":s2m\n", ":r0e\n", ":s4m\n", ":r0e\n", ":s3m\n", ":r0e\n"].map
    fun line => asciiBytes line.toList

/-- What the samples of one poll are samples of. -/
def tickLabels : List (String × String) :=
  [("frequency", "Hz"), ("period", "s"), ("duty cycle", "%"), ("pulse width", "s")]

theorem linesFor_pollingOrder : Counter.linesFor CounterFunction.pollingOrder = tickLines := by
  decide

theorem Measures.labels_pollingOrder {port : Port} {steps : List Step} {samples : List Sample}
    (measures : Measures port CounterFunction.pollingOrder steps (.ok samples)) :
    samples.map (fun sample => (sample.quantity, sample.unit)) = tickLabels := measures.labels

section
variable {sampler : Sampler} {listener : Listener} {steps : List Step} {taken : List Sample}
  {ending : Outcome (Sampler × Except Fault (List Sample))}

theorem Tick.lines (tick : Tick sampler listener.take steps taken ending) :
    linesOn sampler.generator.port (portCalls steps) <+: tickLines := by
  rw [← linesFor_pollingOrder]
  cases tick with
  | unread measures => exact measures.lines
  | refused measures hands refusing =>
    rw [portCalls_append, portCalls_append, hands.quiet, listener.quiet _ _ _ refusing, List.append_nil,
      List.append_nil]
    exact measures.lines
  | stuck measures hands taking =>
    rw [portCalls_append, portCalls_append, hands.quiet, listener.quiet _ _ _ taking, List.append_nil,
      List.append_nil]
    exact measures.lines
  | counted measures hands judges =>
    rw [portCalls_append, portCalls_append, portCalls_append, hands.quiet, judges.quiet, announcement_quiet,
      List.append_nil, List.append_nil, List.append_nil]
    exact measures.lines

end

/-- Either everything was taken and the tick counts, or the state is what it was. -/
theorem Tick.whole_or_nothing {sampler after : Sampler} {take : Sample → Program Unit} {steps : List Step}
    {taken : List Sample} {outcome : Except Fault (List Sample)}
    (tick : Tick sampler take steps taken (.result (after, outcome))) :
    (taken.map (fun sample => (sample.quantity, sample.unit)) = tickLabels ∧
        after.tickCount = sampler.tickCount + 1 ∧ ∀ samples, outcome = .ok samples → samples = taken) ∨
      (after = sampler ∧ (∃ fault, outcome = .error fault) ∧
        ∃ missing, missing ≠ [] ∧
          taken.map (fun sample => (sample.quantity, sample.unit)) ++ missing = tickLabels) := by
  cases tick with
  | unread => exact Or.inr ⟨rfl, ⟨_, rfl⟩, tickLabels, nofun, rfl⟩
  | @refused _ _ _ _ sample left _ measures =>
    refine Or.inr ⟨rfl, ⟨_, rfl⟩, (sample :: left).map fun sample => (sample.quantity, sample.unit),
      nofun, ?_⟩
    rw [← List.map_append, measures.labels_pollingOrder]
  | @counted _ _ _ _ verdict measures =>
    refine Or.inl ⟨measures.labels_pollingOrder, rfl, ?_⟩
    cases verdict with
    | error => exact nofun
    | ok _ =>
      rintro samples ⟨⟩
      rfl

/-- A poll of a running sampler is all or nothing. It writes the first lines of one fixed sequence; a
transaction that fails ends it with nothing handed over; each sample is decoded from the number that was read
right after its own function was selected; and the tick counts only when all samples were taken. -/
theorem poll_all_or_nothing {sampler : Sampler} {listener : Listener} {steps : List Step}
    {ending : Outcome (Sampler × Except Fault (List Sample))} (running : sampler.running = true)
    (run : (sampler.poll listener.take).Runs steps ending) :
    ∃ taken, Tick sampler listener.take steps taken ending ∧
      linesOn sampler.generator.port (portCalls steps) <+: tickLines ∧
      ∀ after outcome, ending = .result (after, outcome) →
        (taken.map (fun sample => (sample.quantity, sample.unit)) = tickLabels ∧
            after.tickCount = sampler.tickCount + 1 ∧ ∀ samples, outcome = .ok samples → samples = taken) ∨
          (after = sampler ∧ (∃ fault, outcome = .error fault) ∧
            ∃ missing, missing ≠ [] ∧
              taken.map (fun sample => (sample.quantity, sample.unit)) ++ missing = tickLabels) := by
  obtain ⟨taken, tick⟩ := poll_tick running run
  refine ⟨taken, tick, tick.lines, ?_⟩
  rintro after outcome rfl
  exact tick.whole_or_nothing

/-- The listener fails at the second sample. -/
theorem poll_all_or_nothing_impatient :
    let generator : Generator := ⟨⟨0, "bench"⟩, ⟨"MHS-25A", .integer 25000000⟩⟩
    let sampler : Sampler := { Sampler.new generator .noLimits with running := true }
    let bench := { Bench.answering ["ok\n", ":r0e100\n", "ok\n", ":r0e200\n", "ok\n", ":r0e300\n", "ok\n",
      ":r0e400\n"] with patience := some 1 }
    let poll := sampler.poll Listener.outside.take
    let ending := Outcome.result (sampler, Except.error (Fault.external .state "sink failed"))
    sampler.running = true ∧ poll.Runs (poll.stepsOn bench) ending ∧
      ∃ taken, Tick sampler Listener.outside.take (poll.stepsOn bench) taken ending ∧
        linesOn generator.port (portCalls (poll.stepsOn bench)) <+: tickLines := by
  intro generator sampler bench poll ending
  have ended : (poll.runOn bench).1 = ending := by decide +kernel
  have run := poll.runs_runOn bench
  rw [ended] at run
  obtain ⟨taken, tick, lines, _⟩ := poll_all_or_nothing rfl run
  exact ⟨rfl, run, taken, tick, lines⟩

end Sampler

end SignalGenerator
