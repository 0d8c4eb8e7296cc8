import SignalGenerator.Proofs.Decoding
import SignalGenerator.Proofs.LegalLines
import SignalGenerator.Proofs.ReplyGrammar
import SignalGenerator.Proofs.Validation

/-!
The faults that can come out of a session. Whatever a generator replies and however its port fails, an
operation ends, and it ends with a result or with a fault of one of four kinds: no fault of arithmetic,
of encoding or of a table can get through.
-/

namespace SignalGenerator

open Number (Between Finite Fits)

/-- The kinds of faults that the operations on a generator are documented to end with. -/
def Fault.Kind.documented : List Fault.Kind := [.transport, .unexpectedReply, .shortReply, .validation]

/-- A step on which the port is a serial port: where it fails, it is with a fault of serial ports. -/
def Step.serial : Step → Bool
  | ⟨.write .., .error fault⟩ | ⟨.readLine .., .error fault⟩ => fault.isOf .serial
  | _ => true

/-- On a serial port the program always ends, with a good result or with a documented fault. -/
inductive Program.Sound {α : Type} (good : α → Prop) : Program α → Prop
  | result {value} : good value → Sound good (.result value)
  | fail {fault kind} : fault.kind = kind → kind ∈ Fault.Kind.documented → Sound good (.fail fault)
  | ask {request next} :
      (∀ answer, Step.serial ⟨request, answer⟩ = true → Sound good (next answer)) →
      Sound good (.ask request next)

namespace Program.Sound

variable {α β : Type} {good : α → Prop} {fine : β → Prop}

theorem runs {program : Program α} (sound : program.Sound good) {steps : List Step}
    {ending : Outcome α} (run : program.Runs steps ending) (serial : ∀ step ∈ steps, step.serial = true) :
    (∃ value, ending = .result value ∧ good value) ∨
      ∃ fault, ending = .fault fault ∧ fault.kind ∈ Fault.Kind.documented := by
  induction sound generalizing steps with
  | result right =>
    obtain ⟨rfl, rfl⟩ := run.of_result
    exact Or.inl ⟨_, rfl, right⟩
  | fail same listed =>
    obtain ⟨rfl, rfl⟩ := run.of_fail
    exact Or.inr ⟨_, rfl, same ▸ listed⟩
  | ask _ ih =>
    obtain ⟨answer, rest, rfl, continued⟩ := run.of_ask
    rw [List.forall_mem_cons] at serial
    exact ih answer serial.1 continued serial.2

theorem bind {program : Program α} {next : α → Program β} (first : program.Sound good)
    (rest : ∀ value, good value → (next value).Sound fine) : (program.bind next).Sound fine := by
  induction first with
  | result right => exact rest _ right
  | fail same listed => exact .fail same listed
  | ask _ ih => exact .ask ih

theorem mono {program : Program α} (sound : program.Sound good) {wider : α → Prop}
    (implies : ∀ value, good value → wider value) : program.Sound wider := by
  rw [← bind_result program]
  exact sound.bind fun value right => .result (implies value right)

/-- What a computation without requests has given, where it fails as documented. -/
theorem ofExcept {answer : Except Fault α} (right : ∀ value, answer = .ok value → good value)
    (listed : ∀ fault, answer = .error fault → fault.kind ∈ Fault.Kind.documented) :
    (Program.ofExcept answer).Sound good := by
  cases answer with
  | ok value => exact .result (right value rfl)
  | error fault => exact .fail rfl (listed fault rfl)

theorem ofArithmetic {answer : Except ArithmeticFault α} {value : α} (given : answer = .ok value)
    (right : good value) : (Program.ofArithmetic answer).Sound good := by
  subst given
  exact .result right

theorem ofArithmetic_bind {answer : Except ArithmeticFault α} {value : α} {next : α → Program β}
    (given : answer = .ok value) (rest : (next value).Sound fine) :
    ((Program.ofArithmetic answer).bind next).Sound fine := by
  subst given
  exact rest

/-- What is said about a setting stops it with a fault of validation. -/
theorem checked {answer : Except Fault (List String)} {errors : List String} {setting : String}
    {next : Program β} (found : answer = .ok errors) (rest : errors = [] → next.Sound fine) :
    ((Program.ofExcept answer).bind fun errors =>
      (Program.ofExcept (Limits.check setting errors)).bind fun _ => next).Sound fine := by
  subst found
  by_cases empty : errors = []
  · subst empty
    exact rest rfl
  · simp only [Program.ofExcept_ok, Program.result_bind, Limits.check_refuses empty]
    exact .fail rfl (by decide : Fault.Kind.validation ∈ _)

end Program.Sound

open Program (Sound)

namespace Exchange

variable {port : Port} {command : String}

/-- A fault of the serial port is passed on as what it interrupted. -/
theorem explain_serial {α : Type} {cause : String → Fault} {fault : Fault}
    (serial : fault.isOf .serial = true) :
    explain cause (.error fault : Except Fault α) = .error (cause fault.message) :=
  congrArg Except.error (if_pos serial)

theorem send_sound (framed : ∃ line, frame command = .ok line) :
    (send port command).Sound fun _ => True := by
  obtain ⟨line, framed⟩ := framed
  rw [send_eq framed]
  refine .ask fun _ _ => .ask fun answer serial => ?_
  rcases answer with fault | written
  · have explained : explain (.sendFailed command) (.error fault : Except Fault Int) = _ :=
      explain_serial serial
    rw [explained]
    exact .fail rfl (by decide : Fault.Kind.transport ∈ _)
  · simp only [explain_ok, Program.ofExcept_ok, Program.result_bind]
    split
    · exact .fail rfl (by decide : Fault.Kind.transport ∈ _)
    · exact .result trivial

theorem receive_sound : (receive port timeout).Sound fun _ => True := by
  rw [receive_eq]
  refine .ask fun answer serial => ?_
  rcases answer with fault | line
  · have explained : explain .readFailed (.error fault : Except Fault String) = _ :=
      explain_serial serial
    dsimp only
    rw [explained]
    exact .fail rfl (by decide : Fault.Kind.transport ∈ _)
  · refine .ask fun _ _ => ?_
    split
    · rw [millisecondsText_timeout]
      exact .fail rfl (by decide : Fault.Kind.transport ∈ _)
    · refine .ofExcept (fun _ _ => trivial) fun fault refused => ?_
      unfold Reply.ofLine at refused
      split at refused
      · cases refused
      · cases refused
        exact (by decide : Fault.Kind.unexpectedReply ∈ Fault.Kind.documented)

theorem order_sound (framed : ∃ line, frame command = .ok line) :
    (order port command).Sound fun _ => True := by
  refine (send_sound framed).bind fun _ _ => receive_sound.bind fun reply _ => ?_
  refine .ofExcept (fun _ _ => trivial) fun fault refused => ?_
  unfold Reply.acknowledge at refused
  split at refused
  · cases refused
  · cases refused
    exact (by decide : Fault.Kind.unexpectedReply ∈ Fault.Kind.documented)

/-- The integers that come out of a reading are short. -/
theorem queryInteger_sound (framed : ∃ line, frame command = .ok line) :
    (queryInteger port command).Sound fun n => n.natAbs < 10 ^ 28 := by
  rw [queryInteger_eq]
  refine (send_sound framed).bind fun _ _ => receive_sound.bind fun reply _ => .ofExcept ?_ ?_
  · intro n judged
    obtain ⟨passed, denoted⟩ := Reply.of_checked_integer judged
    exact Reply.natAbs_lt passed denoted
  · intro fault refused
    rw [Reply.kind_of_refused_integer refused]
    split <;> decide

end Exchange

namespace Setting

variable {port : Port} {channel : Int} (known : channel ∈ channels)

theorem write_sound {command : Command} (framed : ∃ line, Exchange.frame command.text = .ok line) :
    (write port command).Sound fun _ => True := Exchange.order_sound framed

include known

theorem read_sound (register : Register) :
    (read port (.read channel register)).Sound fun n => n.natAbs < 10 ^ 28 :=
  Exchange.queryInteger_sound (Exchange.frame_read known register)

theorem readWaveform_sound : (readWaveform port channel).Sound fun _ => True :=
  (read_sound known _).bind fun _ _ => .result trivial

theorem readAttenuation_sound : (readAttenuation port channel).Sound fun _ => True := by
  refine (read_sound known _).bind fun id _ => ?_
  cases Attenuation.ofId? id with
  | none => exact .fail rfl (by decide : Fault.Kind.unexpectedReply ∈ _)
  | some attenuation => exact .result trivial

theorem readAmplitude_sound :
    (readAmplitude port channel).Sound fun volts => volts.Within Binary64.moderate := by
  unfold readAmplitude
  refine (readAttenuation_sound known).bind fun attenuation _ => ?_
  refine (read_sound known _).bind fun raw short => ?_
  obtain ⟨volts, decoded⟩ := Scaling.decodeAmplitude_ok short attenuation
  exact .ofArithmetic decoded (Scaling.decodeAmplitude_within short decoded)

/-- Whatever can be adjusted reads as a finite number. -/
theorem readAdjustment_sound (adjustment : Adjustment) :
    (readAdjustment port channel adjustment).Sound fun value => value.isFinite = true := by
  cases adjustment with
  | frequency =>
    rw [readAdjustment, readFrequency]
    refine (read_sound known _).bind fun raw short => ?_
    obtain ⟨hertz, decoded⟩ := Scaling.decodeFrequency_ok short
    exact .ofArithmetic decoded (Scaling.decodeFrequency_finite short decoded)
  | amplitude => exact (readAmplitude_sound known).mono fun _ => Binary64.Within.finite
  | offset =>
    rw [readAdjustment, readOffset]
    refine (readAmplitude_sound known).bind fun amplitude within => ?_
    refine (read_sound known _).bind fun raw short => ?_
    obtain ⟨volts, decoded⟩ := Scaling.decodeOffset_ok short amplitude
    exact .ofArithmetic decoded (Scaling.decodeOffset_finite short within decoded)
  | phase =>
    rw [readAdjustment, readPhase]
    refine (read_sound known _).bind fun raw short => ?_
    have narrow : raw.natAbs < 10 ^ 29 := short.trans (by norm_num)
    obtain ⟨degrees, converted⟩ := Number.toReal_short narrow
    exact .ofArithmetic converted (Number.toReal_within narrow converted).finite
  | dutyCycle =>
    rw [readAdjustment, readDutyCycle]
    refine (read_sound known _).bind fun raw short => ?_
    obtain ⟨percent, decoded⟩ := Scaling.decodeDutyCycle_ok short
    exact .ofArithmetic decoded (Scaling.decodeDutyCycle_finite short decoded)

theorem setWaveform_sound (waveform : Waveform) :
    (setWaveform port channel waveform).Sound fun _ => True := by
  by_cases unknown : waveform = .unknown
  · subst unknown
    exact .fail rfl (by decide : Fault.Kind.validation ∈ _)
  · rw [setWaveform_known unknown]
    exact write_sound (Exchange.frame_set known _ _)

theorem setFrequency_sound {hertz : Number} (fits : hertz.Fits) (waveform : Waveform) {maximum : Nat}
    (models : maximum ≤ 99000000) :
    (setFrequency port channel hertz waveform (.integer maximum)).Sound fun _ => True := by
  obtain ⟨errors, found⟩ := Limits.frequencyErrors_ok fits waveform maximum known
  refine .checked found fun empty => ?_
  subst empty
  obtain ⟨raw, encoded, _⟩ :=
    Scaling.encodeFrequency_within (Limits.frequency_between known found) (by omega)
  exact .ofArithmetic_bind encoded (write_sound (Exchange.frame_set known _ raw))

theorem setAmplitude_sound {volts : Number} (fits : volts.Fits) :
    (setAmplitude port channel volts).Sound fun _ => True := by
  obtain ⟨errors, found, exact⟩ : ∃ errors, Limits.amplitudeErrors volts = .ok errors ∧
    (errors = [] ↔ Between 0 20 volts) := Limits.errors_exact fits rfl rfl
  refine .checked (Operation.mapError_ok found) fun empty => ?_
  refine (readAttenuation_sound known).bind fun attenuation _ => ?_
  obtain ⟨raw, encoded, _⟩ := Scaling.encodeAmplitude_within (exact.mp empty) attenuation
  exact .ofArithmetic_bind encoded (write_sound (Exchange.frame_set known _ raw))

theorem setDutyCycle_sound {percent : Number} (fits : percent.Fits) :
    (setDutyCycle port channel percent).Sound fun _ => True := by
  obtain ⟨errors, found, exact⟩ : ∃ errors, Limits.dutyCycleErrors percent = .ok errors ∧
    (errors = [] ↔ Between 0 100 percent) := Limits.errors_exact fits rfl rfl
  refine .checked (Operation.mapError_ok found) fun empty => ?_
  obtain ⟨raw, encoded, _⟩ := Scaling.encodeDutyCycle_within (exact.mp empty)
  exact .ofArithmetic_bind encoded (write_sound (Exchange.frame_set known _ raw))

/-- The amplitude that an offset is a share of may be anything, also zero. -/
theorem setOffset_sound {volts : Number} (fits : volts.Fits) :
    (setOffset port channel volts).Sound fun _ => True := by
  obtain ⟨x, converted⟩ := fits
  unfold setOffset
  refine .ofArithmetic_bind (Number.isFinite_eq converted) ?_
  cases x.isFinite with
  | false => exact .fail rfl (by decide : Fault.Kind.validation ∈ _)
  | true =>
    simp only [Bool.not_true, Bool.false_eq_true, if_false]
    refine (readAmplitude_sound known).bind fun amplitude _ => ?_
    have share : (Program.ofExcept (Scaling.offsetPercent volts amplitude)).Sound fun _ => True := by
      refine .ofExcept (fun _ _ => trivial) fun fault refused => ?_
      rw [(offsetShare_none converted refused).1]
      decide
    refine share.bind fun percent _ => ?_
    obtain ⟨errors, found, exact⟩ : ∃ errors,
      Limits.offsetPercentErrors (.real percent) = .ok errors ∧
        (errors = [] ↔ Between (.integer (-120)) 120 (.real percent)) :=
      Limits.errors_exact ⟨percent, rfl⟩ rfl rfl
    refine .checked (Operation.mapError_ok found) fun empty => ?_
    obtain ⟨raw, encoded, _⟩ := Scaling.encodeOffsetPercent_within (exact.mp empty)
    exact .ofArithmetic_bind encoded (write_sound (Exchange.frame_set known _ raw))

theorem setPhase_sound {degrees : Number} (fits : degrees.Fits) :
    (setPhase port channel degrees).Sound fun _ => True := by
  obtain ⟨angle, converted⟩ := fits
  unfold setPhase
  by_cases finite : angle.isFinite = true
  · obtain ⟨raw, encoded⟩ := Scaling.encodePhase_finite converted finite
    obtain ⟨n, rfl, _⟩ := Scaling.encodePhase_range encoded
    rw [encoded]
    exact write_sound (Exchange.frame_set known _ n)
  · rw [Scaling.encodePhase_infinite converted (Bool.eq_false_iff.mpr finite)]
    exact .fail rfl (by decide : Fault.Kind.validation ∈ _)

end Setting

/-- A status of finite numbers. -/
def ChannelStatus.Finite (status : ChannelStatus) : Prop :=
  ∀ entry ∈ status.readings, entry.2.isFinite = true

theorem ChannelStatus.readEach_sound {port : Port} {channel : Int} (known : channel ∈ channels)
    (adjustments : List Adjustment) :
    (readEach port channel adjustments).Sound
      fun readings => ∀ entry ∈ readings, entry.2.isFinite = true := by
  induction adjustments with
  | nil => exact .result (List.forall_mem_nil _)
  | cons adjustment rest ih =>
    refine (Setting.readAdjustment_sound known adjustment).bind fun value finite => ?_
    refine ih.bind fun readings others => .result ?_
    exact List.forall_mem_cons.mpr ⟨finite, others⟩

theorem ChannelStatus.read_sound {port : Port} {channel : Int} (known : channel ∈ channels) :
    (read port channel).Sound ChannelStatus.Finite := by
  refine (Setting.readWaveform_sound known).bind fun waveform _ => ?_
  exact (readEach_sound known _).bind fun _ finite => .result finite

theorem Generator.onChannel_sound {α : Type} {good : α → Prop} {channel : Int}
    {operation : Program α} (sound : channel ∈ channels → operation.Sound good) :
    (onChannel channel operation).Sound good := by
  by_cases known : channel ∈ channels
  · rw [onChannel_known known]
    exact sound known
  · rw [onChannel_unknown known]
    exact .fail rfl (by decide : Fault.Kind.validation ∈ _)

theorem Generator.setFrequency_sound {generator : Generator} {maximum : Nat} {hertz : Number}
    (model : generator.identity.maxFrequency = .integer maximum) (models : maximum ≤ 99000000)
    (fits : hertz.Fits) (channel : Int) :
    (generator.setFrequency channel hertz).Sound fun _ => True := by
  refine onChannel_sound fun known => ?_
  rw [model]
  obtain ⟨errors, found, _⟩ := Limits.frequencyErrors_unknown fits maximum known
  refine .checked found fun _ => (Setting.readWaveform_sound known).bind fun waveform _ => ?_
  exact Setting.setFrequency_sound known fits waveform models

/-- The commands that do not name a channel can be sent. -/
theorem Exchange.frame_common {command : Command} (member : command.text ∈ commonTexts) :
    ∃ line, frame command.text = .ok line := by
  have all : ∀ text ∈ commonTexts, text.toList.all (fun c => decide (c.toNat < 128)) = true := by
    decide
  exact frame_of_ascii (ascii_of_all (all _ member))

theorem Exchange.order_common {port : Port} {command : Command} (member : command.text ∈ commonTexts) :
    (order port command.text).Sound fun _ => True := order_sound (frame_common member)

theorem Exchange.query_common {port : Port} {command : Command} (member : command.text ∈ commonTexts) :
    (queryInteger port command.text).Sound fun n => n.natAbs < 10 ^ 28 :=
  queryInteger_sound (frame_common member)

theorem Counter.measure_sound {port : Port} (function : CounterFunction) :
    (measure port function).Sound fun value => value.isFinite = true := by
  refine (Exchange.order_common (by cases function <;> decide)).bind fun _ _ => ?_
  refine (Exchange.query_common (by decide)).bind fun raw short => ?_
  obtain ⟨value, decoded, finite⟩ := function.decode_finite short
  exact .ofArithmetic decoded finite

namespace Operation

/-- What an operation can give back: a finite number where it gives a number. -/
def Gives : Operation → Reading → Prop
  | .readWaveform _, .waveform _ | .readAttenuation _, .attenuation _ | .readOutput, .enabled _
  | .readCounter, .register _ => True
  | .readFrequency _, .value value | .readAmplitude _, .value value | .readOffset _, .value value
  | .readPhase _, .value value | .readDutyCycle _, .value value | .measure _, .value value =>
    value.isFinite = true
  | .readStatus _, .status status => status.Finite
  | .setWaveform .., .done | .setOutput _, .done | .setFrequency .., .done
  | .setAmplitude .., .done | .setOffset .., .done | .setPhase .., .done | .setDutyCycle .., .done
  | .selectFunction _, .done | .enableCounter _, .done | .setGateTime _, .done => True
  | _, _ => False

theorem giving_sound {α : Type} {good : α → Prop} {fine : Reading → Prop} {reading : α → Reading}
    {program : Program α} (sound : program.Sound good)
    (implies : ∀ value, good value → fine (reading value)) :
    (giving reading program).Sound fine :=
  sound.bind fun value right => .result (implies value right)

theorem silent_sound {fine : Reading → Prop} {program : Program Unit}
    (sound : program.Sound fun _ => True) (done : fine .done) : (silent program).Sound fine :=
  sound.bind fun _ _ => .result done

variable {maximum : Nat} {generator : Generator}

open Generator (onChannel_sound)

theorem perform_sound (model : generator.identity.maxFrequency = .integer maximum)
    (models : maximum ≤ 99000000) (operation : Operation)
    (fits : ∀ number, operation.argument? = some number → number.Fits) :
    (operation.perform generator).Sound operation.Gives := by
  cases operation
  case readWaveform =>
    exact giving_sound (onChannel_sound Setting.readWaveform_sound) fun _ _ => trivial
  case setWaveform channel waveform =>
    exact silent_sound (onChannel_sound fun known => Setting.setWaveform_sound known waveform) trivial
  case readAttenuation =>
    exact giving_sound (onChannel_sound Setting.readAttenuation_sound) fun _ _ => trivial
  case readOutput =>
    have sound : generator.readOutput.Sound fun _ => True :=
      (Exchange.query_common (by decide)).bind fun _ _ => .result trivial
    exact giving_sound sound fun _ _ => trivial
  case setOutput enabled =>
    exact silent_sound (Exchange.order_common (by cases enabled <;> decide)) trivial
  case readFrequency =>
    exact giving_sound (onChannel_sound fun known => Setting.readAdjustment_sound known .frequency)
      fun _ finite => finite
  case setFrequency channel hertz =>
    exact silent_sound (Generator.setFrequency_sound model models (fits hertz rfl) channel) trivial
  case readAmplitude =>
    exact giving_sound (onChannel_sound fun known => Setting.readAdjustment_sound known .amplitude)
      fun _ finite => finite
  case setAmplitude channel volts =>
    exact silent_sound (onChannel_sound fun known =>
      Setting.setAmplitude_sound known (fits volts rfl)) trivial
  case readOffset =>
    exact giving_sound (onChannel_sound fun known => Setting.readAdjustment_sound known .offset)
      fun _ finite => finite
  case setOffset channel volts =>
    exact silent_sound (onChannel_sound fun known =>
      Setting.setOffset_sound known (fits volts rfl)) trivial
  case readPhase =>
    exact giving_sound (onChannel_sound fun known => Setting.readAdjustment_sound known .phase)
      fun _ finite => finite
  case setPhase channel degrees =>
    exact silent_sound (onChannel_sound fun known =>
      Setting.setPhase_sound known (fits degrees rfl)) trivial
  case readDutyCycle =>
    exact giving_sound (onChannel_sound fun known => Setting.readAdjustment_sound known .dutyCycle)
      fun _ finite => finite
  case setDutyCycle channel percent =>
    exact silent_sound (onChannel_sound fun known =>
      Setting.setDutyCycle_sound known (fits percent rfl)) trivial
  case readStatus =>
    exact giving_sound (onChannel_sound ChannelStatus.read_sound) fun _ finite => finite
  case selectFunction function =>
    exact silent_sound (Exchange.order_common (by cases function <;> decide)) trivial
  case enableCounter enabled =>
    exact silent_sound (Exchange.order_common (by cases enabled <;> decide)) trivial
  case setGateTime gateTime =>
    exact silent_sound (Exchange.order_common (by cases gateTime <;> decide)) trivial
  case readCounter =>
    exact giving_sound (Exchange.query_common (by decide)) fun _ _ => trivial
  case measure function => exact giving_sound (Counter.measure_sound function) fun _ finite => finite

/-- Only documented faults come out of a session. On every serial port, with whatever it replies, an
operation of an identified generator ends with a result, in which all numbers are finite, or with a
fault of the transport, of a reply or of validation. -/
theorem failures_documented {port : Port} {identity : Identity} {operation : Operation}
    {early steps : List Step} {ending : Outcome Reading}
    (identified : (Identity.identify port).Runs early (.result identity))
    (fits : ∀ number, operation.argument? = some number → number.Fits)
    (run : (operation.perform ⟨port, identity⟩).Runs steps ending)
    (serial : ∀ step ∈ steps, step.serial = true) :
    (∃ reading, ending = .result reading ∧ operation.Gives reading) ∨
      ∃ fault, ending = .fault fault ∧ fault.kind ∈ Fault.Kind.documented := by
  obtain ⟨maximum, le, model⟩ := Identity.identify_maximum identified
  have exact : (⟨port, identity⟩ : Generator).identity.maxFrequency = .integer maximum := model
  exact (perform_sound exact le operation fits).runs run serial

/-- The largest number that a reply has room for is a finite frequency. -/
theorem failures_documented_largest :
    let generator : Generator := ⟨⟨0, "bench"⟩, ⟨"MHS-25A00", .integer 25000000⟩⟩
    let hertz := Binary64.ofDecimal false 9999999999999999999999999999 (-2)
    ∃ steps, ((readFrequency 2).perform generator).Runs steps (.result (.value hertz)) ∧
      (∀ step ∈ steps, step.serial = true) ∧ (readFrequency 2).Gives (.value hertz) := by
  intro generator hertz
  let reading := Bench.answering [":r2f9999999999999999999999999999\r\n"]
  have ended : (((readFrequency 2).perform generator).runOn reading).1 = .result (.value hertz) := by
    decide +kernel
  have serial : ∀ step ∈ ((readFrequency 2).perform generator).stepsOn reading,
      step.serial = true := by decide +kernel
  obtain ⟨_, identified⟩ := Identity.identify_bench
  have run := ((readFrequency 2).perform generator).runs_runOn reading
  rw [ended] at run
  have fits : ∀ number, (readFrequency 2).argument? = some number → number.Fits := by
    rintro _ ⟨⟩
  rcases failures_documented identified fits run serial with ⟨_, same, gives⟩ | ⟨_, same, _⟩
  · exact ⟨_, run, serial, Outcome.result.inj same ▸ gives⟩
  · cases same

end Operation

end SignalGenerator
