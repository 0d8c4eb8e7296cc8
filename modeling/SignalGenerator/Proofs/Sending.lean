import SignalGenerator.Acquisition.Run
import SignalGenerator.Proofs.Plan
import SignalGenerator.Proofs.Readings

/-!
The plan of everything that an acquisition does with a generator: which exchanges a setting takes, the
status of a channel, one poll of the counter.
-/

namespace SignalGenerator

open Program (Sends)

namespace Setting

variable {port : Port} {channel : Int}

theorem read_sends {command : Command} (reads : command.expects = .integer) :
    (read port command).Sends port [.command command] := by
  have ends : ∀ steps ending, (read port command).Runs steps ending →
      command.transaction.Ends port (Reply.Answers command.text) (portCalls steps) ending := by
    intro steps ending run
    rw [Command.transaction, reads]
    exact Exchange.queryInteger_runs run
  exact .of_ends .command ends fun _ _ _ => trivial

theorem order_sends {command : Command} (orders : command.expects = .acknowledgement) {stem : Stem}
    (covers : stem.Covers command) (hears : ∀ reply, stem.Hears reply) :
    (Exchange.order port command.text).Sends port [stem] := by
  have ends : ∀ steps ending, (Exchange.order port command.text).Runs steps ending →
      command.transaction.Ends port (fun _ _ => True) (portCalls steps) ending := by
    intro steps ending run
    rw [Command.transaction, orders]
    exact Exchange.order_runs run
  exact .of_ends covers ends fun reply _ _ => hears reply

theorem write_sends {command : Command} (orders : command.expects = .acknowledgement) :
    (write port command).Sends port [.command command] :=
  order_sends orders .command fun _ => trivial

theorem set_sends {register : Register} {raw : Int} :
    (write port (.set channel register raw)).Sends port [.setting channel register] :=
  order_sends rfl .setting fun _ => trivial

theorem setWaveform_sends (waveform : Waveform) :
    (setWaveform port channel waveform).Sends port [.setting channel .waveform] := by
  by_cases unknown : waveform = .unknown
  · subst unknown
    exact .fail _
  · rw [setWaveform_known unknown]
    exact set_sends

theorem readAttenuation_sends :
    (readAttenuation port channel).Sends port [.command (.read channel .attenuation)] := by
  refine (read_sends rfl).bind_silent fun id => ?_
  cases Attenuation.ofId? id with
  | none => exact .fail _
  | some attenuation => exact .result _

theorem readAmplitude_sends : (readAmplitude port channel).Sends port
    [.command (.read channel .attenuation), .command (.read channel .amplitude)] := by
  unfold readAmplitude
  refine readAttenuation_sends.bind fun _ => ?_
  exact (read_sends rfl).bind_silent fun _ => .ofExcept _

theorem setFrequency_sends (hertz maximum : Number) (waveform : Waveform) :
    (setFrequency port channel hertz waveform maximum).Sends port
      [.setting channel .frequency] := by
  unfold setFrequency
  refine .ofExcept_bind fun _ => .ofExcept_bind fun _ => .ofArithmetic_bind fun _ => ?_
  exact set_sends

theorem setAmplitude_sends (volts : Number) : (setAmplitude port channel volts).Sends port
    [.command (.read channel .attenuation), .setting channel .amplitude] := by
  unfold setAmplitude
  refine .ofArithmetic_bind fun _ => .ofExcept_bind fun _ => ?_
  refine readAttenuation_sends.bind fun _ => .ofArithmetic_bind fun _ => ?_
  exact set_sends

theorem setDutyCycle_sends (percent : Number) :
    (setDutyCycle port channel percent).Sends port [.setting channel .dutyCycle] := by
  unfold setDutyCycle
  refine .ofArithmetic_bind fun _ => .ofExcept_bind fun _ => .ofArithmetic_bind fun _ => ?_
  exact set_sends

theorem setOffset_sends (volts : Number) : (setOffset port channel volts).Sends port
    [.command (.read channel .attenuation), .command (.read channel .amplitude),
      .setting channel .offset] := by
  unfold setOffset
  refine .ofArithmetic_bind fun finite => ?_
  cases finite with
  | false => exact .fail _
  | true =>
    simp only [Bool.not_true, Bool.false_eq_true, if_false]
    refine readAmplitude_sends.bind fun _ => .ofExcept_bind fun _ => ?_
    refine .ofArithmetic_bind fun _ => .ofExcept_bind fun _ => .ofArithmetic_bind fun _ => ?_
    exact set_sends

theorem setPhase_sends (degrees : Number) :
    (setPhase port channel degrees).Sends port [.setting channel .phase] :=
  .ofExcept_bind fun _ => set_sends

end Setting

/-- The exchanges in which something that can be adjusted is read. -/
def Adjustment.readings (channel : Int) : Adjustment → List Stem
  | .frequency => [.command (.read channel .frequency)]
  | .amplitude => [.command (.read channel .attenuation), .command (.read channel .amplitude)]
  | .offset =>
    [.command (.read channel .attenuation), .command (.read channel .amplitude),
      .command (.read channel .offset)]
  | .phase => [.command (.read channel .phase)]
  | .dutyCycle => [.command (.read channel .dutyCycle)]

theorem Setting.readAdjustment_sends {port : Port} {channel : Int} (adjustment : Adjustment) :
    (readAdjustment port channel adjustment).Sends port (adjustment.readings channel) := by
  cases adjustment with
  | frequency => exact (read_sends rfl).bind_silent fun _ => .ofExcept _
  | amplitude => exact readAmplitude_sends
  | offset =>
    rw [readAdjustment, readOffset]
    refine readAmplitude_sends.bind fun _ => ?_
    exact (read_sends rfl).bind_silent fun _ => .ofExcept _
  | phase => exact (read_sends rfl).bind_silent fun _ => .ofExcept _
  | dutyCycle => exact (read_sends rfl).bind_silent fun _ => .ofExcept _

theorem ChannelStatus.readEach_sends {port : Port} {channel : Int} (adjustments : List Adjustment) :
    (readEach port channel adjustments).Sends port
      (adjustments.flatMap (Adjustment.readings channel)) := by
  induction adjustments with
  | nil => exact .result _
  | cons adjustment rest ih =>
    refine (Setting.readAdjustment_sends adjustment).bind fun _ => ?_
    exact ih.bind_silent fun _ => .result _

theorem Counter.measure_sends {port : Port} (function : CounterFunction) :
    (measure port function).Sends port
      [.command (.selectFunction function), .command .readCounter] := by
  unfold measure
  refine (Setting.write_sends rfl).bind fun _ => ?_
  exact (Setting.read_sends rfl).bind_silent fun _ => .ofExcept _

namespace Generator

variable {generator : Generator} {channel : Int}

theorem onChannel_sends {α : Type} {port : Port} {plan : List Stem} {operation : Program α}
    (sends : operation.Sends port plan) : (onChannel channel operation).Sends port plan := by
  by_cases known : channel ∈ channels
  · rwa [onChannel_known known]
  · rw [onChannel_unknown known]
    exact .fail _

theorem setFrequency_sends (hertz : Number) : (generator.setFrequency channel hertz).Sends
    generator.port [.command (.read channel .waveform), .setting channel .frequency] := by
  refine onChannel_sends (.ofExcept_bind fun _ => .ofExcept_bind fun _ => ?_)
  have waveform : (Setting.readWaveform generator.port channel).Sends generator.port
      [.command (.read channel .waveform)] :=
    (Setting.read_sends rfl).bind_silent fun _ => .result _
  exact waveform.bind fun _ => Setting.setFrequency_sends _ _ _

end Generator

namespace Sampler

variable {port : Port} {sink : Sample → Program Unit}

theorem measureEach_sends {generator : Generator} (functions : List CounterFunction) :
    (measureEach generator functions).Sends generator.port
      (functions.flatMap fun function => [.command (.selectFunction function), .command .readCounter]) := by
  induction functions with
  | nil => exact .result _
  | cons function rest ih =>
    refine (Counter.measure_sends function).bind fun _ => ?_
    exact ih.bind_silent fun _ => .result _

theorem deliverEach_sends (silent : ∀ sample, (sink sample).Sends port []) (samples : List Sample) :
    (deliverEach sink samples).Sends port [] := by
  induction samples with
  | nil => exact .result _
  | cons sample rest ih => exact (silent sample).silent_bind fun _ => ih

theorem limitReached_sends (sampler : Sampler) : sampler.limitReached.Sends port [] := by
  refine .ofExcept_bind fun reached => ?_
  cases reached with
  | true => exact .result _
  | false => exact Sends.stopwatch.silent_bind fun _ => .ofExcept _

end Sampler

theorem Recording.appendRow_sends {port : Port} (path : String) (row : Row) :
    (appendRow path row).Sends port [] :=
  Sends.silent_bind (.ask (fun _ => rfl) fun _ => .ofExcept _)
    fun _ => .ask (fun _ => rfl) fun _ => .ofExcept _

theorem Recording.sample_sends {port : Port} (path : String) (sample : Sample) :
    (Recording.sample path sample).Sends port [] := by
  refine Sends.silent_bind (Sends.now.silent_bind fun _ => ?_) fun _ => .result _
  exact (appendRow_sends _ _).silent_bind fun _ => .result _

theorem Recording.settings_sends {port : Port} (path : String) (channel : Int) (row : Row) :
    (Recording.settings path channel row).Sends port [] :=
  Sends.now.silent_bind fun _ => appendRow_sends _ _

end SignalGenerator
