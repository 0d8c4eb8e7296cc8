import SignalGenerator.Proofs.Turns

/-!
What every operation on a generator sends, and that it sends it in turns.
-/

namespace SignalGenerator

open Program (TakesTurns)

theorem Limits.check_eq_ok {setting : String} {errors : List String} {passed : Unit}
    (checked : Limits.check setting errors = .ok passed) : errors = [] := by
  unfold Limits.check at checked
  split at checked
  · rename_i empty
    exact List.isEmpty_iff.mp empty
  · cases checked

namespace Setting

variable {port : Port} {allowed : Transaction → Prop} {channel : Int}

theorem read_turns {command : Command} (fits : allowed ⟨command.text, .integer⟩) :
    (read port command).TakesTurns port allowed :=
  TakesTurns.queryInteger fits

theorem write_turns {command : Command} (fits : allowed ⟨command.text, .acknowledgement⟩) :
    (write port command).TakesTurns port allowed :=
  TakesTurns.order fits

theorem readWaveform_turns (fits : allowed (Command.read channel .waveform).transaction) :
    (readWaveform port channel).TakesTurns port allowed :=
  (read_turns fits).bind fun _ => .of_quiet (.result _)

theorem setWaveform_known {waveform : Waveform} (known : waveform ≠ .unknown) :
    setWaveform port channel waveform = write port (.set channel .waveform waveform.id) := by
  cases waveform <;> first | rfl | contradiction

theorem setWaveform_turns {waveform : Waveform}
    (fits : waveform ≠ .unknown → allowed (Command.set channel .waveform waveform.id).transaction) :
    (setWaveform port channel waveform).TakesTurns port allowed := by
  by_cases unknown : waveform = .unknown
  · subst unknown
    exact .fail _
  · rw [setWaveform_known unknown]
    exact write_turns (fits unknown)

theorem readAttenuation_turns (fits : allowed (Command.read channel .attenuation).transaction) :
    (readAttenuation port channel).TakesTurns port allowed := by
  refine (read_turns fits).bind fun id => ?_
  cases Attenuation.ofId? id with
  | none => exact .fail _
  | some attenuation => exact .of_quiet (.result _)

theorem readOutput_turns (fits : allowed Command.readOutput.transaction) :
    (readOutput port).TakesTurns port allowed :=
  (read_turns fits).bind fun _ => .of_quiet (.result _)

theorem setOutput_turns {enabled : Bool} (fits : allowed (Command.setOutput enabled).transaction) :
    (setOutput port enabled).TakesTurns port allowed :=
  write_turns fits

theorem readFrequency_turns (fits : allowed (Command.read channel .frequency).transaction) :
    (readFrequency port channel).TakesTurns port allowed :=
  (read_turns fits).bind fun _ => .ofExcept _

theorem setFrequency_turns {hertz maximum : Number} {waveform : Waveform}
    (fits : ∀ raw, Limits.frequencyErrors hertz waveform maximum channel = .ok [] →
      Scaling.encodeFrequency hertz = .ok raw → allowed (Command.set channel .frequency raw).transaction) :
    (setFrequency port channel hertz waveform maximum).TakesTurns port allowed := by
  refine .ofExcept_bind fun errors found => .ofExcept_bind fun _ checked => ?_
  refine .ofArithmetic_bind fun raw encoded => write_turns (fits raw ?_ encoded)
  rw [found, Limits.check_eq_ok checked]

theorem readAmplitude_turns (first : allowed (Command.read channel .attenuation).transaction)
    (fits : allowed (Command.read channel .amplitude).transaction) :
    (readAmplitude port channel).TakesTurns port allowed := by
  unfold readAmplitude
  refine (readAttenuation_turns first).bind fun _ => ?_
  exact (read_turns fits).bind fun _ => .ofExcept _

theorem setAmplitude_turns {volts : Number}
    (first : allowed (Command.read channel .attenuation).transaction)
    (fits : ∀ attenuation raw, Limits.amplitudeErrors volts = .ok [] →
      Scaling.encodeAmplitude volts attenuation = .ok raw →
      allowed (Command.set channel .amplitude raw).transaction) :
    (setAmplitude port channel volts).TakesTurns port allowed := by
  refine .ofArithmetic_bind fun errors found => .ofExcept_bind fun _ checked => ?_
  refine (readAttenuation_turns first).bind fun attenuation => ?_
  refine .ofArithmetic_bind fun raw encoded => write_turns (fits attenuation raw ?_ encoded)
  rw [found, Limits.check_eq_ok checked]

theorem readDutyCycle_turns (fits : allowed (Command.read channel .dutyCycle).transaction) :
    (readDutyCycle port channel).TakesTurns port allowed :=
  (read_turns fits).bind fun _ => .ofExcept _

theorem setDutyCycle_turns {percent : Number}
    (fits : ∀ raw, Limits.dutyCycleErrors percent = .ok [] →
      Scaling.encodeDutyCycle percent = .ok raw →
      allowed (Command.set channel .dutyCycle raw).transaction) :
    (setDutyCycle port channel percent).TakesTurns port allowed := by
  refine .ofArithmetic_bind fun errors found => .ofExcept_bind fun _ checked => ?_
  refine .ofArithmetic_bind fun raw encoded => write_turns (fits raw ?_ encoded)
  rw [found, Limits.check_eq_ok checked]

theorem readOffset_turns (first : allowed (Command.read channel .attenuation).transaction)
    (second : allowed (Command.read channel .amplitude).transaction)
    (fits : allowed (Command.read channel .offset).transaction) :
    (readOffset port channel).TakesTurns port allowed := by
  unfold readOffset
  refine (readAmplitude_turns first second).bind fun _ => ?_
  exact (read_turns fits).bind fun _ => .ofExcept _

theorem setOffset_turns {volts : Number}
    (first : allowed (Command.read channel .attenuation).transaction)
    (second : allowed (Command.read channel .amplitude).transaction)
    (fits : ∀ percent raw, Limits.offsetPercentErrors (.real percent) = .ok [] →
      Scaling.encodeOffsetPercent (.real percent) = .ok raw →
      allowed (Command.set channel .offset raw).transaction) :
    (setOffset port channel volts).TakesTurns port allowed := by
  unfold setOffset
  refine .ofArithmetic_bind fun finite _ => ?_
  cases finite with
  | false => exact .fail _
  | true =>
    simp only [Bool.not_true, Bool.false_eq_true, if_false]
    refine (readAmplitude_turns first second).bind fun amplitude => ?_
    refine .ofExcept_bind fun percent _ => .ofArithmetic_bind fun errors found => ?_
    refine .ofExcept_bind fun _ checked => .ofArithmetic_bind fun raw encoded => ?_
    refine write_turns (fits percent raw ?_ encoded)
    rw [found, Limits.check_eq_ok checked]

theorem readPhase_turns (fits : allowed (Command.read channel .phase).transaction) :
    (readPhase port channel).TakesTurns port allowed :=
  (read_turns fits).bind fun _ => .ofExcept _

theorem setPhase_turns {degrees : Number}
    (fits : ∀ raw, Scaling.encodePhase degrees = .ok raw →
      allowed (Command.set channel .phase raw).transaction) :
    (setPhase port channel degrees).TakesTurns port allowed :=
  .ofExcept_bind fun raw encoded => write_turns (fits raw encoded)

theorem readAdjustment_turns (fits : ∀ register, allowed (Command.read channel register).transaction)
    (adjustment : Adjustment) : (readAdjustment port channel adjustment).TakesTurns port allowed := by
  cases adjustment with
  | frequency => exact readFrequency_turns (fits _)
  | amplitude => exact readAmplitude_turns (fits _) (fits _)
  | offset => exact readOffset_turns (fits _) (fits _) (fits _)
  | phase => exact readPhase_turns (fits _)
  | dutyCycle => exact readDutyCycle_turns (fits _)

end Setting

theorem ChannelStatus.readEach_turns {port : Port} {allowed : Transaction → Prop} {channel : Int}
    (fits : ∀ register, allowed (Command.read channel register).transaction)
    (adjustments : List Adjustment) : (readEach port channel adjustments).TakesTurns port allowed := by
  induction adjustments with
  | nil => exact .of_quiet (.result _)
  | cons adjustment rest ih =>
    refine (Setting.readAdjustment_turns fits adjustment).bind fun _ => ?_
    exact ih.bind fun _ => .of_quiet (.result _)

theorem ChannelStatus.read_turns {port : Port} {allowed : Transaction → Prop} {channel : Int}
    (fits : ∀ register, allowed (Command.read channel register).transaction) :
    (read port channel).TakesTurns port allowed := by
  unfold read
  refine (Setting.readWaveform_turns (fits _)).bind fun _ => ?_
  exact (readEach_turns fits _).bind fun _ => .of_quiet (.result _)

theorem Identity.identify_turns {port : Port} {allowed : Transaction → Prop}
    (fits : allowed Command.readModel.transaction) : (identify port).TakesTurns port allowed :=
  (TakesTurns.query fits).bind fun _ => .ofExcept _

theorem Counter.measure_turns {port : Port} {allowed : Transaction → Prop}
    {function : CounterFunction} (first : allowed (Command.selectFunction function).transaction)
    (fits : allowed Command.readCounter.transaction) :
    (measure port function).TakesTurns port allowed := by
  unfold measure
  refine (TakesTurns.order first).bind fun _ => ?_
  exact (TakesTurns.queryInteger fits).bind fun _ => .ofExcept _

namespace Generator

variable {generator : Generator} {allowed : Transaction → Prop} {channel : Int}

theorem onChannel_turns {α : Type} {port : Port} {operation : Program α}
    (turns : channel ∈ channels → operation.TakesTurns port allowed) :
    (onChannel channel operation).TakesTurns port allowed := by
  unfold onChannel
  split
  · rename_i known
    exact turns (List.contains_iff_mem.mp known)
  · exact .fail _

theorem setFrequency_turns {hertz : Number}
    (first : channel ∈ channels → allowed (Command.read channel .waveform).transaction)
    (fits : channel ∈ channels → ∀ waveform raw,
      Limits.frequencyErrors hertz waveform generator.identity.maxFrequency channel = .ok [] →
      Scaling.encodeFrequency hertz = .ok raw → allowed (Command.set channel .frequency raw).transaction) :
    (generator.setFrequency channel hertz).TakesTurns generator.port allowed := by
  refine onChannel_turns fun known => ?_
  refine .ofExcept_bind fun _ _ => .ofExcept_bind fun _ _ => ?_
  refine (Setting.readWaveform_turns (first known)).bind fun waveform => ?_
  exact Setting.setFrequency_turns (fits known waveform)

end Generator

theorem Program.TakesTurns.giving {α : Type} {port : Port} {allowed : Transaction → Prop}
    {program : Program α} {reading : α → Reading} (turns : program.TakesTurns port allowed) :
    (Operation.giving reading program).TakesTurns port allowed :=
  turns.bind fun _ => .of_quiet (.result _)

/-- Who a sample is handed over to. A listener leaves the ports alone, but it may fail. -/
structure Listener where
  take : Sample → Program Unit
  quiet : ∀ sample, (take sample).Quiet

/-- The listener outside of the program. -/
def Listener.outside : Listener := ⟨Program.deliver, .deliver⟩

namespace Sampler

/-- An operation of a sampler with its fault passed on. -/
def raising {α : Type} (program : Program (Sampler × Except Fault α)) : Program (Sampler × α) :=
  program.bind fun (sampler, answer) => Program.ofExcept (answer.map (sampler, ·))

variable {sampler : Sampler} {allowed : Transaction → Prop}

theorem measureEach_turns {generator : Generator}
    (first : ∀ function, allowed (Command.selectFunction function).transaction)
    (fits : allowed Command.readCounter.transaction) (functions : List CounterFunction) :
    (measureEach generator functions).TakesTurns generator.port allowed := by
  induction functions with
  | nil => exact .of_quiet (.result _)
  | cons function rest ih =>
    unfold measureEach
    refine (Counter.measure_turns (first function) fits).bind fun _ => ?_
    exact ih.bind fun _ => .of_quiet (.result _)

theorem deliverEach_quiet (listener : Listener) (samples : List Sample) :
    (deliverEach listener.take samples).Quiet := by
  induction samples with
  | nil => exact .result _
  | cons sample rest ih => exact (listener.quiet sample).bind fun _ => ih

theorem limitReached_quiet (sampler : Sampler) : sampler.limitReached.Quiet := by
  refine (Program.Quiet.ofExcept _).bind fun reached => ?_
  cases reached with
  | true => exact .result _
  | false => exact Program.Quiet.stopwatch.bind fun _ => .ofExcept _

theorem start_turns (first : allowed (Command.enableCounter true).transaction)
    (fits : allowed (Command.selectFunction .frequency).transaction) :
    (raising sampler.start).TakesTurns sampler.generator.port allowed := by
  unfold raising start
  rw [Program.bind_eq, Program.bind_assoc, Program.bind_attempt _ _ fun _ => rfl]
  refine TakesTurns.bind ?_ fun _ => .of_quiet ?_
  · exact (TakesTurns.order first).bind fun _ => .order fits
  · refine Program.Quiet.bind ?_ fun _ => .ofExcept _
    exact Program.Quiet.stopwatch.bind fun _ => (Program.Quiet.info _).bind fun _ => .result _

theorem stop_turns (fits : allowed (Command.enableCounter false).transaction) :
    (raising sampler.stop).TakesTurns sampler.generator.port allowed := by
  unfold raising stop
  rw [Program.bind_eq, Program.bind_assoc, Program.bind_attempt _ _ fun _ => rfl]
  refine (TakesTurns.order fits).bind fun _ => .of_quiet ?_
  exact ((Program.Quiet.info _).bind fun _ => .result _).bind fun _ => .ofExcept _

theorem poll_turns (listener : Listener)
    (first : ∀ function, allowed (Command.selectFunction function).transaction)
    (fits : allowed Command.readCounter.transaction) :
    (raising (sampler.poll listener.take)).TakesTurns sampler.generator.port allowed := by
  unfold raising poll
  cases sampler.running with
  | false => exact .fail _
  | true =>
    simp only [Bool.not_true, Bool.false_eq_true, if_false, Program.bind_eq]
    rw [Program.bind_assoc, Program.bind_attempt _ _ fun _ => rfl]
    refine TakesTurns.bind ?_ fun _ => .of_quiet ?_
    · refine (measureEach_turns first fits _).bind fun samples => .of_quiet ?_
      exact (deliverEach_quiet listener samples).bind fun _ => .result _
    · refine Program.Quiet.bind ?_ fun _ => .ofExcept _
      refine (limitReached_quiet _).attempt.bind fun reached => ?_
      rcases reached with fault | _ | _
      · exact .result _
      · exact .result _
      · exact (Program.Quiet.info _).bind fun _ => .result _

end Sampler

end SignalGenerator
