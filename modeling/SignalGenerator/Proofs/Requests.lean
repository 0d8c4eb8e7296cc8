import SignalGenerator.Acquisition.Run
import SignalGenerator.Proofs.Execution

/-!
What programs can ask for. An operation on a generator only uses its port and says what it does; and all that
an acquisition does besides recording samples leaves the file with the samples alone.
-/

namespace SignalGenerator

/-- Whatever the program is answered, it only makes requests of one kind. -/
inductive Program.Only {α : Type} (allowed : Request → Prop) : Program α → Prop
  | result {value} : Only allowed (.result value)
  | fail {fault} : Only allowed (.fail fault)
  | unfinished : Only allowed .unfinished
  | ask {request next} : allowed request → (∀ answer, Only allowed (next answer)) →
      Only allowed (.ask request next)

namespace Program.Only

variable {α β : Type} {allowed : Request → Prop} {program : Program α} {next : α → Program β}

theorem runs (only : program.Only allowed) {steps : List Step} {ending : Outcome α}
    (run : program.Runs steps ending) : ∀ step ∈ steps, allowed step.request := by
  induction only generalizing steps with
  | result =>
    rw [run.of_result.1]
    exact List.forall_mem_nil _
  | fail =>
    rw [run.of_fail.1]
    exact List.forall_mem_nil _
  | unfinished =>
    cases run
    exact List.forall_mem_nil _
  | ask fits _ ih =>
    obtain ⟨answer, rest, rfl, continued⟩ := run.of_ask
    exact List.forall_mem_cons.mpr ⟨fits, ih answer continued⟩

theorem bind (first : program.Only allowed) (rest : ∀ value, (next value).Only allowed) :
    (program.bind next).Only allowed := by
  induction first with
  | result => exact rest _
  | fail => exact .fail
  | unfinished => exact .unfinished
  | ask fits _ ih => exact .ask fits ih

theorem attempt (only : program.Only allowed) : program.attempt.Only allowed := by
  induction only with
  | result => exact .result
  | fail => exact .result
  | unfinished => exact .unfinished
  | ask fits _ ih => exact .ask fits ih

theorem mono (only : program.Only allowed) {wider : Request → Prop}
    (implies : ∀ request, allowed request → wider request) : program.Only wider := by
  induction only with
  | result => exact .result
  | fail => exact .fail
  | unfinished => exact .unfinished
  | ask fits _ ih => exact .ask (implies _ fits) ih

theorem ofExcept (answer : Except Fault α) : (Program.ofExcept answer).Only allowed := by
  cases answer with
  | ok _ => exact .result
  | error _ => exact .fail

theorem perform {request : Request} (fits : allowed request)
    (judge : request.Answer → Except Fault α) : (Program.perform request judge).Only allowed :=
  .ask fits fun _ => ofExcept _

theorem log {level : LogLevel} {message : String} (fits : allowed (.log level message)) :
    (Program.log level message).Only allowed :=
  .ask fits fun _ => .result

/-- Something is said first. -/
theorem info_bind {message : String} {next : Unit → Program β} (fits : allowed (.log .info message))
    (rest : (next ()).Only allowed) : ((Program.info message).bind next).Only allowed :=
  (log fits).bind fun _ => rest

end Program.Only

/-- A request of a conversation on a port. -/
def Request.Talks : Request → Prop
  | .write .. | .readLine .. | .log .. => True
  | _ => False

/-- A program that only talks on ports. -/
def Program.Talks {α : Type} (program : Program α) : Prop := program.Only Request.Talks

open Program (Only Talks)

namespace Exchange

variable (port : Port) (command : String)

theorem send_talks : (send port command).Talks := by
  refine (Only.ofExcept _).bind fun line => ?_
  have writes : (writeLine port line).Talks :=
    (Only.log trivial).bind fun _ => .perform trivial _
  refine writes.attempt.bind fun answer => (Only.ofExcept _).bind fun written => ?_
  split
  · exact .fail
  · exact .result

theorem receive_talks (wait : Number) : (receive port wait).Talks := by
  have reads : (readLine port wait).Talks :=
    (Only.perform trivial _).bind fun _ => (Only.log trivial).bind fun _ => .result
  refine reads.attempt.bind fun answer => (Only.ofExcept _).bind fun line => ?_
  split
  · exact (Only.ofExcept _).bind fun _ => .fail
  · exact .ofExcept _

theorem order_talks : (order port command).Talks :=
  (send_talks port command).bind fun _ => (receive_talks port _).bind fun _ => .ofExcept _

theorem query_talks : (query port command).Talks :=
  (send_talks port command).bind fun _ => (receive_talks port _).bind fun _ => .ofExcept _

theorem queryInteger_talks : (queryInteger port command).Talks :=
  (query_talks port command).bind fun _ => .ofExcept _

end Exchange

namespace Setting

variable (port : Port) (channel : Int)

theorem read_talks (command : Command) : (read port command).Talks := Exchange.queryInteger_talks _ _

theorem write_talks (command : Command) : (write port command).Talks := Exchange.order_talks _ _

theorem readWaveform_talks : (readWaveform port channel).Talks :=
  (read_talks port _).bind fun _ => .result

theorem setWaveform_talks (waveform : Waveform) : (setWaveform port channel waveform).Talks := by
  cases waveform
  case unknown => exact .fail
  all_goals exact write_talks port _

theorem readAttenuation_talks : (readAttenuation port channel).Talks := by
  refine (read_talks port _).bind fun id => ?_
  cases Attenuation.ofId? id with
  | some _ => exact .result
  | none => exact .fail

theorem readAmplitude_talks : (readAmplitude port channel).Talks :=
  (readAttenuation_talks port channel).bind fun _ => (read_talks port _).bind fun _ => .ofExcept _

theorem readOffset_talks : (readOffset port channel).Talks :=
  (readAmplitude_talks port channel).bind fun _ => (read_talks port _).bind fun _ => .ofExcept _

theorem readAdjustment_talks (adjustment : Adjustment) : (readAdjustment port channel adjustment).Talks := by
  cases adjustment
  case amplitude => exact readAmplitude_talks port channel
  case offset => exact readOffset_talks port channel
  all_goals exact (read_talks port _).bind fun _ => .ofExcept _

theorem setFrequency_talks (hertz maximum : Number) (waveform : Waveform) :
    (setFrequency port channel hertz waveform maximum).Talks :=
  (Only.ofExcept _).bind fun _ => (Only.ofExcept _).bind fun _ => (Only.ofExcept _).bind fun _ =>
    write_talks port _

theorem setAmplitude_talks (volts : Number) : (setAmplitude port channel volts).Talks :=
  (Only.ofExcept _).bind fun _ => (Only.ofExcept _).bind fun _ =>
    (readAttenuation_talks port channel).bind fun _ => (Only.ofExcept _).bind fun _ => write_talks port _

theorem setDutyCycle_talks (percent : Number) : (setDutyCycle port channel percent).Talks :=
  (Only.ofExcept _).bind fun _ => (Only.ofExcept _).bind fun _ => (Only.ofExcept _).bind fun _ =>
    write_talks port _

theorem setOffset_talks (volts : Number) : (setOffset port channel volts).Talks := by
  refine (Only.ofExcept _).bind fun finite => ?_
  cases finite with
  | false => exact .fail
  | true =>
    refine (readAmplitude_talks port channel).bind fun _ => (Only.ofExcept _).bind fun _ => ?_
    refine (Only.ofExcept _).bind fun _ => (Only.ofExcept _).bind fun _ => (Only.ofExcept _).bind fun _ => ?_
    exact write_talks port _

theorem setPhase_talks (degrees : Number) : (setPhase port channel degrees).Talks :=
  (Only.ofExcept _).bind fun _ => write_talks port _

end Setting

theorem ChannelStatus.readEach_talks (port : Port) (channel : Int) (adjustments : List Adjustment) :
    (readEach port channel adjustments).Talks := by
  induction adjustments with
  | nil => exact .result
  | cons adjustment rest ih =>
    exact (Setting.readAdjustment_talks port channel adjustment).bind fun _ => ih.bind fun _ => .result

namespace Generator

variable (generator : Generator) (channel : Int)

theorem onChannel_talks {α : Type} {operation : Program α} (talks : operation.Talks) :
    (onChannel channel operation).Talks := by
  unfold onChannel
  split
  · exact talks
  · exact .fail

theorem setFrequency_talks (hertz : Number) : (generator.setFrequency channel hertz).Talks := by
  refine onChannel_talks channel ((Only.ofExcept _).bind fun _ => (Only.ofExcept _).bind fun _ => ?_)
  exact (Setting.readWaveform_talks _ _).bind fun _ => Setting.setFrequency_talks _ _ _ _ _

theorem readStatus_talks : (generator.readStatus channel).Talks := by
  refine onChannel_talks channel ((Setting.readWaveform_talks _ _).bind fun _ => ?_)
  exact (ChannelStatus.readEach_talks _ _ _).bind fun _ => .result

end Generator

/-- Nothing is appended to this file. -/
def Request.Spares (path : String) (request : Request) : Prop := ∀ text, request ≠ .append path text

/-- A program that leaves this file alone. -/
def Program.Spares {α : Type} (path : String) (program : Program α) : Prop :=
  program.Only (Request.Spares path)

variable {path : String}

theorem Request.Talks.spares {request : Request} (talks : request.Talks) : request.Spares path := by
  rintro text rfl
  exact talks

theorem Program.Talks.spares {α : Type} {program : Program α} (talks : program.Talks) :
    program.Spares path :=
  Only.mono talks fun _ => Request.Talks.spares

namespace Sampler

variable (sampler : Sampler)

theorem start_spares : sampler.start.Spares path := by
  have prepares : ((sampler.generator.enableCounter true).bind fun _ =>
      sampler.generator.selectFunction .frequency).Talks :=
    (Exchange.order_talks _ _).bind fun _ => Exchange.order_talks _ _
  refine prepares.spares.attempt.bind fun outcome => ?_
  rcases outcome with _ | _
  · exact .result
  · exact .ask nofun fun _ => .info_bind nofun .result

theorem stop_spares : sampler.stop.Spares path := by
  have disables : (sampler.generator.enableCounter false).Talks := Exchange.order_talks _ _
  refine disables.spares.attempt.bind fun outcome => ?_
  rcases outcome with _ | _
  · exact .result
  · exact .info_bind nofun .result

end Sampler

theorem Generator.openOn_spares (name : Given String) (baudRate : Given Int) :
    (openOn name baudRate).Spares path := by
  have identifies : ∀ port, (Identity.identify port).Talks :=
    fun port => (Exchange.query_talks port _).bind fun _ => .ofExcept _
  refine (Only.log nofun).bind fun _ => (Only.perform nofun _).bind fun port => ?_
  refine (identifies port).spares.attempt.bind fun outcome => ?_
  rcases outcome with fault | identity
  · dsimp only
    split
    · exact .ask nofun fun _ => .fail
    · exact .fail
  · exact .info_bind nofun .result

/-- What is true of every call and every pause is true of calling again and again. -/
theorem RetryPolicy.repeating_only {α : Type} {allowed : Request → Prop} (policy : RetryPolicy)
    {call : Program (Except Fault α)} {pause : Program Unit} (calls : call.Only allowed)
    (pauses : pause.Only allowed) (further : Nat) : (policy.repeating call pause further).Only allowed := by
  induction further with
  | zero => exact calls
  | succ further ih =>
    refine calls.bind fun outcome => ?_
    rcases outcome with fault | value
    · dsimp only
      split
      · exact pauses.bind fun _ => ih
      · exact .result
    · exact .result

theorem Recording.appendRow_spares {target : String} (other : target ≠ path) (row : Row) :
    (appendRow target row).Spares path := by
  refine (Only.perform nofun _).bind fun isEmpty => .perform ?_ _
  rintro text same
  exact other (Request.append.inj same).1

namespace Acquisition

theorem openPersistently_spares (name : Given String) (baudRate : Given Int) :
    (openPersistently name baudRate).Spares path := by
  refine (RetryPolicy.repeating_only _ (Generator.openOn_spares name baudRate).attempt ?_ _).bind
    fun _ => .ofExcept _
  exact .info_bind nofun (.perform nofun _)

theorem forSetting_spares {α : Type} {setting : Option α} {action : α → Program Unit}
    (spares : ∀ value, (action value).Spares path) : (forSetting setting action).Spares path := by
  cases setting with
  | some value => exact spares value
  | none => exact .result

theorem applySetting_spares {α : Type} {channel : Given Int} {parameter : Parameter}
    {quantity unit : String} {shown : α → String} {setting : Option (Given α)}
    {write : Int → α → Program Unit} (talks : ∀ channel value, (write channel value).Talks) :
    (applySetting channel parameter quantity unit shown setting write).Spares path := by
  refine forSetting_spares fun given => .info_bind nofun ?_
  exact (Only.ofExcept _).bind fun number => (Only.ofExcept _).bind fun value => (talks number value).spares

theorem applySettings_spares (generator : Generator) (arguments : Arguments) :
    (applySettings generator arguments).Spares path := by
  refine (applySetting_spares fun channel _ => ?_).bind fun _ => ?_
  · exact Generator.onChannel_talks channel (Setting.setWaveform_talks _ _ _)
  refine (applySetting_spares fun channel _ => ?_).bind fun _ => ?_
  · exact generator.setFrequency_talks channel _
  refine (applySetting_spares fun channel _ => ?_).bind fun _ => ?_
  · exact Generator.onChannel_talks channel (Setting.setAmplitude_talks _ _ _)
  refine (applySetting_spares fun channel _ => ?_).bind fun _ => ?_
  · exact Generator.onChannel_talks channel (Setting.setOffset_talks _ _ _)
  refine (applySetting_spares fun channel _ => ?_).bind fun _ => ?_
  · exact Generator.onChannel_talks channel (Setting.setPhase_talks _ _ _)
  refine (applySetting_spares fun channel _ => ?_).bind fun _ => ?_
  · exact Generator.onChannel_talks channel (Setting.setDutyCycle_talks _ _ _)
  exact forSetting_spares fun _ => .info_bind nofun (Exchange.order_talks _ _).spares

theorem prepare_spares (generator : Generator) {configuration : Configuration}
    (other : configuration.statusPath ≠ path) : (prepare generator configuration).Spares path := by
  refine (applySettings_spares generator _).bind fun _ => (Only.ofExcept _).bind fun channel => ?_
  refine (generator.readStatus_talks channel).spares.bind fun status => .info_bind nofun ?_
  refine Only.bind ((Only.perform nofun _).bind fun _ => Recording.appendRow_spares other _) fun _ => ?_
  refine (forSetting_spares fun _ => ?_).bind fun _ => .result
  exact (Only.ofExcept _).bind fun _ => (Exchange.order_talks _ _).spares

theorem waitOrAdvance_spares (interval : Number) (due : Instant) :
    (Schedule.waitOrAdvance interval due).Spares path := by
  refine (Only.perform nofun _).bind fun time => ?_
  split
  · exact (Only.perform nofun _).bind fun _ => .result
  · exact (Only.ofExcept _).bind fun _ => .result

theorem announce_spares (outcome : Except Fault Unit) : (announce outcome).Spares path := by
  rcases outcome with fault | _
  · unfold announce
    dsimp only
    split
    · exact .log nofun
    · split
      · exact .log nofun
      · exact .result
  · exact .log nofun

theorem shutDown_spares (generator : Generator) (sampler : Option Sampler) :
    (shutDown generator sampler).Spares path := by
  have closes : ∀ stopped : Except Fault Unit, (generator.close.bind fun _ =>
      (Program.info "Serial port closed.").bind fun _ => Program.ofExcept stopped).Spares path :=
    fun stopped => .ask nofun fun _ => .info_bind nofun (.ofExcept stopped)
  cases sampler with
  | none => exact closes (.ok ())
  | some sampler =>
    have stops : sampler.stop.Spares path := sampler.stop_spares
    exact .info_bind nofun (stops.bind fun _ => closes _)

end Acquisition

end SignalGenerator
