import SignalGenerator.Proofs.LegalLines

/-!
Validation is exact, and it comes before anything is sent. What no state of the generator could make
right is refused without a call on the port; what depends on the generator is read first, and then the
command is sent exactly when the limits allow it.
-/

namespace SignalGenerator

open Number (Between Finite Fits)

/-- The execution ended with a fault of validation. -/
def Invalid {α : Type} (ending : Outcome α) : Prop :=
  ∃ fault, ending = .fault fault ∧ fault.kind = .validation

/-- A command is sent, and the operation succeeds exactly when it is acknowledged. -/
inductive Command.Sent (command : Command) (port : Port) : List PortCall → Outcome Reading → Prop
  | unacknowledged {calls fault} : command.transaction.Makes port calls none →
      Sent command port calls (.fault fault)
  | acknowledged {calls line} : command.transaction.Makes port calls (some line) →
      Sent command port calls (.result .done)

/-- The share of an amplitude, in percent, that can be sent for an offset in volts. -/
inductive OffsetShare (volts : Number) (amplitude : Binary64) : Binary64 → Prop
  | none : amplitude.place = .units 0 → volts.place = .units 0 → OffsetShare volts amplitude .zero
  | percent {x} : amplitude.place ≠ .units 0 → volts.toReal = .ok x →
      Between (.integer (-120)) 120 (.real ((x.div amplitude).mul Scaling.hundred)) →
      OffsetShare volts amplitude ((x.div amplitude).mul Scaling.hundred)

theorem zero_between : Between (.integer (-120)) 120 (.real .zero) := by
  refine (@Number.between_integers (-120) 120 _).mpr ⟨0, Number.zero_place, ?_, ?_⟩ <;> omega

theorem OffsetShare.between {volts : Number} {amplitude percent : Binary64}
    (share : OffsetShare volts amplitude percent) :
    Between (.integer (-120)) 120 (.real percent) := by
  cases share with
  | none => exact zero_between
  | percent _ _ between => exact between

/-- A share that is computed can be sent when it is within 120 percent either way. -/
theorem offsetShare_iff {volts : Number} {x amplitude percent : Binary64}
    (converted : volts.toReal = .ok x) (computed : Scaling.offsetPercent volts amplitude = .ok percent)
    (share : Binary64) :
    OffsetShare volts amplitude share ↔
      share = percent ∧ Between (.integer (-120)) 120 (.real percent) := by
  rw [Scaling.offsetPercent_eq converted] at computed
  constructor
  · intro given
    cases given with
    | none flat nothing =>
      rw [if_pos flat, if_pos nothing] at computed
      cases Except.ok.inj computed
      exact ⟨rfl, zero_between⟩
    | percent steep again between =>
      rw [if_neg steep] at computed
      cases Except.ok.inj (converted.symm.trans again)
      cases Except.ok.inj computed
      exact ⟨rfl, between⟩
  · rintro ⟨rfl, between⟩
    by_cases flat : amplitude.place = .units 0
    · by_cases nothing : volts.place = .units 0
      · rw [if_pos flat, if_pos nothing] at computed
        cases Except.ok.inj computed
        exact .none flat nothing
      · rw [if_pos flat, if_neg nothing] at computed
        cases computed
    · rw [if_neg flat] at computed
      cases Except.ok.inj computed
      exact .percent flat converted between

/-- An offset without a share of the amplitude cannot be sent. -/
theorem offsetShare_none {volts : Number} {x amplitude : Binary64} {fault : Fault}
    (converted : volts.toReal = .ok x) (refused : Scaling.offsetPercent volts amplitude = .error fault) :
    fault.kind = .validation ∧ ∀ share, ¬ OffsetShare volts amplitude share := by
  rw [Scaling.offsetPercent_eq converted] at refused
  split at refused
  · rename_i flat
    split at refused
    · cases refused
    · rename_i nothing
      cases refused
      refine ⟨rfl, fun share given => ?_⟩
      cases given with
      | none _ zero => exact nothing zero
      | percent steep => exact steep flat
  · cases refused

namespace Operation

/-- The number that an operation is given. -/
def argument? : Operation → Option Number
  | .setFrequency _ number | .setAmplitude _ number | .setOffset _ number | .setPhase _ number
  | .setDutyCycle _ number => some number
  | _ => none

/-- What an operation sets. -/
def register? : Operation → Option Register
  | .setWaveform .. => some .waveform
  | .setFrequency .. => some .frequency
  | .setAmplitude .. => some .amplitude
  | .setOffset .. => some .offset
  | .setPhase .. => some .phase
  | .setDutyCycle .. => some .dutyCycle
  | _ => none

/-- A value that no generator with this highest frequency can be set to. -/
def Unfit (maximum : Nat) : Operation → Prop
  | .setWaveform _ waveform => waveform = .unknown
  | .setFrequency _ hertz => ¬ Between 0 (.integer maximum) hertz
  | .setAmplitude _ volts => ¬ Between 0 20 volts
  | .setOffset _ volts => ¬ volts.Finite
  | .setPhase _ degrees => ¬ degrees.Finite
  | .setDutyCycle _ percent => ¬ Between 0 100 percent
  | _ => False

/-- An operation that is wrong in every state of a generator with this highest frequency. -/
def Wrong (maximum : Nat) (operation : Operation) : Prop :=
  (∃ channel, operation.channel? = some channel ∧ channel ∉ channels) ∨ operation.Unfit maximum

/-- How an operation that sets something is carried out when its value is not unfit. A frequency is checked
against the limits of the waveform that was read, an offset against the amplitude that was read. -/
inductive Carried (port : Port) (maximum : Nat) :
    Operation → List PortCall → Outcome Reading → Prop
  | waveform {channel waveform calls ending} :
      (Command.set channel .waveform (waveform : Waveform).id).Sent port calls ending →
      Carried port maximum (.setWaveform channel waveform) calls ending
  | phase {channel degrees raw calls ending} : Scaling.encodePhase degrees = .ok raw →
      (Command.set channel .phase raw).Sent port calls ending →
      Carried port maximum (.setPhase channel degrees) calls ending
  | dutyCycle {channel percent raw calls ending} : Scaling.encodeDutyCycle percent = .ok raw →
      (Command.set channel .dutyCycle raw).Sent port calls ending →
      Carried port maximum (.setDutyCycle channel percent) calls ending
  | amplitudeUnread {channel volts calls fault} : AttenuationUnread port channel calls →
      Carried port maximum (.setAmplitude channel volts) calls (.fault fault)
  | amplitude {channel volts attenuation raw first rest ending} :
      AttenuationRead port channel attenuation first →
      Scaling.encodeAmplitude volts attenuation = .ok raw →
      (Command.set channel .amplitude raw).Sent port rest ending →
      Carried port maximum (.setAmplitude channel volts) (first ++ rest) ending
  | frequencyUnread {channel hertz calls fault} :
      (Command.read channel .waveform).transaction.Makes port calls none →
      Carried port maximum (.setFrequency channel hertz) calls (.fault fault)
  | frequencyRefused {channel hertz n errors calls ending} :
      Exchanged port (.read channel .waveform) n calls →
      Limits.frequencyErrors hertz (.ofId n) (.integer maximum) channel = .ok errors →
      errors ≠ [] → Invalid ending →
      Carried port maximum (.setFrequency channel hertz) calls ending
  | frequency {channel hertz n raw first rest ending} :
      Exchanged port (.read channel .waveform) n first →
      Limits.frequencyErrors hertz (.ofId n) (.integer maximum) channel = .ok [] →
      Scaling.encodeFrequency hertz = .ok raw →
      (Command.set channel .frequency raw).Sent port rest ending →
      Carried port maximum (.setFrequency channel hertz) (first ++ rest) ending
  | offsetUnread {channel volts calls fault} : AmplitudeUnread port channel calls →
      Carried port maximum (.setOffset channel volts) calls (.fault fault)
  | offsetRefused {channel volts amplitude calls ending} :
      AmplitudeRead port channel amplitude calls → (∀ percent, ¬ OffsetShare volts amplitude percent) →
      Invalid ending → Carried port maximum (.setOffset channel volts) calls ending
  | offset {channel volts amplitude percent raw first rest ending} :
      AmplitudeRead port channel amplitude first → OffsetShare volts amplitude percent →
      Scaling.encodeOffsetPercent percent = .ok raw →
      (Command.set channel .offset raw).Sent port rest ending →
      Carried port maximum (.setOffset channel volts) (first ++ rest) ending

end Operation

theorem Limits.check_refuses {errors : List String} (said : errors ≠ []) (setting : String) :
    Limits.check setting errors = .error (.outOfRange setting errors) := by
  unfold Limits.check
  rw [if_neg (by simpa using said)]

/-- A check goes on when there is nothing to say about a setting, and ends with a fault of validation
when there is. -/
theorem checked_runs {α : Type} {answer : Except Fault (List String)} {errors : List String}
    {setting : String} {next : Program α} {steps : List Step} {ending : Outcome α}
    (found : answer = .ok errors)
    (run : ((Program.ofExcept answer).bind fun errors =>
      (Program.ofExcept (Limits.check setting errors)).bind fun _ => next).Runs steps ending) :
    (errors = [] ∧ next.Runs steps ending) ∨ (errors ≠ [] ∧ steps = [] ∧ Invalid ending) := by
  subst found
  by_cases empty : errors = []
  · subst empty
    exact Or.inl ⟨rfl, run⟩
  · have refused := Limits.check_refuses empty setting
    simp only [Program.ofExcept_ok, Program.result_bind, refused, Program.ofExcept_error,
      Program.fail_bind] at run
    obtain ⟨rfl, rfl⟩ := run.of_fail
    exact Or.inr ⟨empty, rfl, _, rfl, rfl⟩

namespace Operation

theorem silent_bind {α : Type} (program : Program α) (next : α → Program Unit) :
    silent (program.bind next) = program.bind fun value => silent (next value) :=
  Program.bind_assoc ..

variable {port : Port} {channel : Int} {steps : List Step} {ending : Outcome Reading}

/-- A command that is written in an operation is sent. -/
theorem write_runs {command : Command} (ordered : command.expects = .acknowledgement)
    (framed : ∃ line, Exchange.frame command.text = .ok line)
    (run : (silent (Setting.write port command)).Runs steps ending) :
    command.Sent port (portCalls steps) ending := by
  have sent : ∀ inner, (Setting.write port command).Runs steps inner →
      (∃ fault, inner = .fault fault ∧ command.transaction.Makes port (portCalls steps) none) ∨
      ∃ line, inner = .result () ∧ command.transaction.Makes port (portCalls steps) (some line) := by
    intro inner run
    have ended := Exchange.order_runs run
    rw [← ordered] at ended
    generalize portCalls steps = calls at ended ⊢
    obtain ⟨line, framed⟩ := framed
    cases ended with
    | unencodable unframed => cases framed.symm.trans unframed
    | failed made => exact Or.inl ⟨_, rfl, made⟩
    | answered made _ => exact Or.inr ⟨_, rfl, made⟩
  rcases giving_runs run with ⟨_, done, rfl⟩ | ⟨_, failed, rfl⟩ | ⟨stuck, rfl⟩
  · rcases sent _ done with ⟨_, same, _⟩ | ⟨_, _, made⟩
    · cases same
    · exact .acknowledged made
  · rcases sent _ failed with ⟨_, _, made⟩ | ⟨_, same, _⟩
    · exact .unacknowledged made
    · cases same
  · rcases sent _ stuck with ⟨_, same, _⟩ | ⟨_, same, _⟩ <;> cases same

/-- What was found without an arithmetic fault. -/
theorem mapError_ok {α : Type} {answer : Except ArithmeticFault α} {value : α}
    (found : answer = .ok value) : answer.mapError Fault.arithmetic = .ok value := by
  rw [found]
  rfl

/-- An operation is carried out, or its value is unfit and it ends at once. -/
def Judged (port : Port) (maximum : Nat) (operation : Operation) (steps : List Step)
    (ending : Outcome Reading) : Prop :=
  (¬ operation.Unfit maximum ∧ operation.Carried port maximum (portCalls steps) ending) ∨
    (operation.Unfit maximum ∧ steps = [] ∧ Invalid ending)

variable {maximum : Nat}

theorem setDutyCycle_runs {percent : Number} (known : channel ∈ channels) (fits : percent.Fits)
    (run : (silent (Setting.setDutyCycle port channel percent)).Runs steps ending) :
    Judged port maximum (.setDutyCycle channel percent) steps ending := by
  obtain ⟨errors, found, exact⟩ : ∃ errors, Limits.dutyCycleErrors percent = .ok errors ∧
    (errors = [] ↔ Between 0 100 percent) := Limits.errors_exact fits rfl rfl
  simp only [Setting.setDutyCycle, Program.bind_eq, silent_bind, Program.ofArithmetic] at run
  rcases checked_runs (mapError_ok found) run with ⟨empty, sending⟩ | ⟨said, rfl, invalid⟩
  · have between := exact.mp empty
    obtain ⟨n, encoded, _⟩ := Scaling.encodeDutyCycle_within between
    simp only [mapError_ok encoded, Program.ofExcept_ok, Program.result_bind] at sending
    exact Or.inl ⟨not_not_intro between, .dutyCycle encoded (write_runs rfl (Exchange.frame_set known _ n) sending)⟩
  · exact Or.inr ⟨fun between => said (exact.mpr between), rfl, invalid⟩

theorem setPhase_runs {degrees : Number} (known : channel ∈ channels) (fits : degrees.Fits)
    (run : (silent (Setting.setPhase port channel degrees)).Runs steps ending) :
    Judged port maximum (.setPhase channel degrees) steps ending := by
  obtain ⟨angle, converted⟩ := fits
  have located := Number.isFinite_iff converted
  simp only [Setting.setPhase, Program.bind_eq, silent_bind] at run
  by_cases finite : angle.isFinite = true
  · obtain ⟨raw, encoded⟩ := Scaling.encodePhase_finite converted finite
    obtain ⟨n, rfl, _⟩ := Scaling.encodePhase_range encoded
    simp only [encoded, Program.ofExcept_ok, Program.result_bind] at run
    have sent := write_runs rfl (Exchange.frame_set known _ n) run
    exact Or.inl ⟨not_not_intro (located.mp finite), .phase encoded sent⟩
  · rw [Scaling.encodePhase_infinite converted (Bool.eq_false_iff.mpr finite)] at run
    obtain ⟨rfl, rfl⟩ := Program.Runs.of_fail run
    exact Or.inr ⟨fun placed => finite (located.mpr placed), rfl, _, rfl, rfl⟩

theorem setWaveform_runs {waveform : Waveform} (known : channel ∈ channels)
    (run : (silent (Setting.setWaveform port channel waveform)).Runs steps ending) :
    Judged port maximum (.setWaveform channel waveform) steps ending := by
  by_cases unknown : waveform = .unknown
  · subst unknown
    obtain ⟨rfl, rfl⟩ := Program.Runs.of_fail run
    exact Or.inr ⟨rfl, rfl, _, rfl, rfl⟩
  · rw [Setting.setWaveform_known unknown] at run
    exact Or.inl ⟨unknown, .waveform (write_runs rfl (Exchange.frame_set known _ _) run)⟩

theorem setAmplitude_runs {volts : Number} (known : channel ∈ channels) (fits : volts.Fits)
    (run : (silent (Setting.setAmplitude port channel volts)).Runs steps ending) :
    Judged port maximum (.setAmplitude channel volts) steps ending := by
  obtain ⟨errors, found, exact⟩ : ∃ errors, Limits.amplitudeErrors volts = .ok errors ∧
    (errors = [] ↔ Between 0 20 volts) := Limits.errors_exact fits rfl rfl
  simp only [Setting.setAmplitude, Program.bind_eq, silent_bind, Program.ofArithmetic] at run
  rcases checked_runs (mapError_ok found) run with ⟨empty, going⟩ | ⟨said, rfl, invalid⟩
  · have between := exact.mp empty
    refine Or.inl ⟨not_not_intro between, ?_⟩
    rcases going.of_settled_bind (fun _ _ => Setting.readAttenuation_runs known) with
      ⟨attenuation, first, rest, rfl, read, sending⟩ | ⟨fault, rfl, unread⟩
    · obtain ⟨n, encoded, _⟩ := Scaling.encodeAmplitude_within between attenuation
      simp only [mapError_ok encoded, Program.ofExcept_ok, Program.result_bind] at sending
      rw [portCalls_append]
      exact .amplitude read encoded (write_runs rfl (Exchange.frame_set known _ n) sending)
    · exact .amplitudeUnread unread
  · exact Or.inr ⟨fun between => said (exact.mpr between), rfl, invalid⟩

/-- A frequency is checked twice, the second time against the waveform that was read in between. -/
theorem setFrequency_runs {generator : Generator} {hertz : Number} (known : channel ∈ channels)
    (fits : hertz.Fits) (model : generator.identity.maxFrequency = .integer maximum)
    (models : maximum ≤ 99000000)
    (run : (silent (generator.setFrequency channel hertz)).Runs steps ending) :
    Judged generator.port maximum (.setFrequency channel hertz) steps ending := by
  obtain ⟨errors, found, exact⟩ := Limits.frequencyErrors_unknown fits maximum known
  rw [Generator.setFrequency, Generator.onChannel_known known] at run
  simp only [model, Program.bind_eq, silent_bind] at run
  rcases checked_runs found run with ⟨empty, going⟩ | ⟨said, rfl, invalid⟩
  · have between := exact.mp empty
    refine Or.inl ⟨not_not_intro between, ?_⟩
    rcases going.of_settled_bind (fun _ _ => Setting.readWaveform_runs known) with
      ⟨waveform, first, rest, rfl, ⟨n, rfl, exchanged⟩, last⟩ | ⟨fault, rfl, made⟩
    · obtain ⟨limits, listed⟩ := Limits.frequencyErrors_ok fits (.ofId n) maximum known
      simp only [Setting.setFrequency, Program.bind_eq, silent_bind] at last
      rcases checked_runs listed last with ⟨rfl, sending⟩ | ⟨said, rfl, invalid⟩
      · obtain ⟨raw, encoded, _⟩ := Scaling.encodeFrequency_within between (by omega)
        simp only [Program.ofArithmetic, mapError_ok encoded, Program.ofExcept_ok,
          Program.result_bind] at sending
        rw [portCalls_append]
        exact .frequency exchanged listed encoded
          (write_runs rfl (Exchange.frame_set known _ raw) sending)
      · rw [List.append_nil]
        exact .frequencyRefused exchanged listed said invalid
    · exact .frequencyUnread made
  · exact Or.inr ⟨fun between => said (exact.mpr between), rfl, invalid⟩

/-- What is sent for an offset depends on the amplitude that was read, and so does whether anything is
sent. -/
theorem setOffset_runs {volts : Number} (known : channel ∈ channels) (fits : volts.Fits)
    (run : (silent (Setting.setOffset port channel volts)).Runs steps ending) :
    Judged port maximum (.setOffset channel volts) steps ending := by
  obtain ⟨x, converted⟩ := fits
  have located := Number.isFinite_iff converted
  simp only [Setting.setOffset, Program.bind_eq, Program.ofArithmetic,
    mapError_ok (Number.isFinite_eq converted), Program.ofExcept_ok, Program.result_bind] at run
  by_cases finite : x.isFinite = true
  · simp only [finite, Bool.not_true, Bool.false_eq_true, if_false, silent_bind] at run
    refine Or.inl ⟨not_not_intro (located.mp finite), ?_⟩
    rcases run.of_settled_bind (fun _ _ => Setting.readAmplitude_runs known) with
      ⟨amplitude, first, rest, rfl, read, going⟩ | ⟨fault, rfl, unread⟩
    · rw [portCalls_append]
      cases computed : Scaling.offsetPercent volts amplitude with
      | error fault =>
        obtain ⟨kind, none⟩ := offsetShare_none converted computed
        rw [computed] at going
        obtain ⟨rfl, rfl⟩ := Program.Runs.of_fail going
        rw [portCalls_nil, List.append_nil]
        exact .offsetRefused read none ⟨fault, rfl, kind⟩
      | ok percent =>
        obtain ⟨errors, found, exact⟩ : ∃ errors,
          Limits.offsetPercentErrors (.real percent) = .ok errors ∧
            (errors = [] ↔ Between (.integer (-120)) 120 (.real percent)) :=
          Limits.errors_exact ⟨percent, rfl⟩ rfl rfl
        have shares := offsetShare_iff converted computed
        simp only [computed, Program.ofExcept_ok, Program.result_bind] at going
        rcases checked_runs (mapError_ok found) going with ⟨empty, sending⟩ | ⟨said, rfl, invalid⟩
        · have between := exact.mp empty
          obtain ⟨raw, encoded, _⟩ := Scaling.encodeOffsetPercent_within between
          simp only [mapError_ok encoded, Program.ofExcept_ok, Program.result_bind] at sending
          exact .offset read ((shares percent).mpr ⟨rfl, between⟩) encoded
            (write_runs rfl (Exchange.frame_set known _ raw) sending)
        · rw [portCalls_nil, List.append_nil]
          exact .offsetRefused read
            (fun share given => said (exact.mpr ((shares share).mp given).2)) invalid
    · exact .offsetUnread unread
  · simp only [finite, Bool.not_false, if_true, Program.fail_bind] at run
    obtain ⟨rfl, rfl⟩ := Program.Runs.of_fail run
    exact Or.inr ⟨fun placed => finite (located.mpr placed), rfl, _, rfl, rfl⟩

theorem perform_unknown {operation : Operation} {generator : Generator}
    (given : operation.channel? = some channel) (unknown : channel ∉ channels) :
    operation.perform generator = .fail (.channelOutOfRange channel) := by
  cases operation <;> cases given <;>
    simp only [perform, giving, silent, Generator.readWaveform, Generator.setWaveform,
      Generator.readAttenuation, Generator.readFrequency, Generator.setFrequency,
      Generator.readAmplitude, Generator.setAmplitude, Generator.readOffset, Generator.setOffset,
      Generator.readPhase, Generator.setPhase, Generator.readDutyCycle, Generator.setDutyCycle,
      Generator.readStatus, Generator.onChannel_unknown unknown, Program.fail_bind]

/-- With a channel that there is, only the value of an operation can be unfit. -/
theorem perform_known {operation : Operation} {generator : Generator}
    (model : generator.identity.maxFrequency = .integer maximum) (models : maximum ≤ 99000000)
    (known : ∀ channel, operation.channel? = some channel → channel ∈ channels)
    (fits : ∀ number, operation.argument? = some number → number.Fits)
    (sets : operation.register?.isSome) (run : (operation.perform generator).Runs steps ending) :
    Judged generator.port maximum operation steps ending := by
  cases operation
  case setWaveform channel waveform =>
    rw [perform, Generator.setWaveform, Generator.onChannel_known (known channel rfl)] at run
    exact setWaveform_runs (known channel rfl) run
  case setFrequency channel hertz =>
    exact setFrequency_runs (known channel rfl) (fits hertz rfl) model models run
  case setAmplitude channel volts =>
    rw [perform, Generator.setAmplitude, Generator.onChannel_known (known channel rfl)] at run
    exact setAmplitude_runs (known channel rfl) (fits volts rfl) run
  case setOffset channel volts =>
    rw [perform, Generator.setOffset, Generator.onChannel_known (known channel rfl)] at run
    exact setOffset_runs (known channel rfl) (fits volts rfl) run
  case setPhase channel degrees =>
    rw [perform, Generator.setPhase, Generator.onChannel_known (known channel rfl)] at run
    exact setPhase_runs (known channel rfl) (fits degrees rfl) run
  case setDutyCycle channel percent =>
    rw [perform, Generator.setDutyCycle, Generator.onChannel_known (known channel rfl)] at run
    exact setDutyCycle_runs (known channel rfl) (fits percent rfl) run
  all_goals cases sets

theorem register_of_unfit {operation : Operation} (unfit : operation.Unfit maximum) :
    operation.register?.isSome := by
  cases operation <;> first | rfl | exact unfit.elim

/-- Every setting is validated exactly. An operation that is wrong in every state makes no call and
ends with a fault of validation; any other one that sets something is carried out. A frequency that some
waveform has is never wrong. -/
theorem validation_exact {port : Port} {identity : Identity} {operation : Operation}
    {early steps : List Step} {ending : Outcome Reading}
    (identified : (Identity.identify port).Runs early (.result identity))
    (fits : ∀ number, operation.argument? = some number → number.Fits)
    (run : (operation.perform ⟨port, identity⟩).Runs steps ending) :
    ∃ megahertz ≤ 99, identity.maxFrequency = .integer ((megahertz : Nat) * 1000000) ∧
      (operation.Wrong (megahertz * 1000000) → portCalls steps = [] ∧ Invalid ending) ∧
      (operation.register?.isSome → ¬ operation.Wrong (megahertz * 1000000) →
        operation.Carried port (megahertz * 1000000) (portCalls steps) ending) ∧
      ∀ channel hertz waveform, operation = .setFrequency channel hertz → channel ∈ channels →
        Limits.frequencyErrors hertz waveform identity.maxFrequency channel = .ok [] →
        ¬ operation.Wrong (megahertz * 1000000) := by
  obtain ⟨megahertz, le, model⟩ := Identity.identify_maxFrequency identified
  have exact : (⟨port, identity⟩ : Generator).identity.maxFrequency =
      .integer (megahertz * 1000000 : Nat) := by
    exact_mod_cast model
  have models : megahertz * 1000000 ≤ 99000000 := by omega
  refine ⟨megahertz, le, model, ?_, ?_, ?_⟩
  · rintro wrong
    by_cases known : ∀ channel, operation.channel? = some channel → channel ∈ channels
    · rcases wrong with ⟨channel, given, unknown⟩ | unfit
      · exact absurd (known channel given) unknown
      · rcases perform_known exact models known fits (register_of_unfit unfit) run with
          ⟨fit, _⟩ | ⟨_, rfl, invalid⟩
        · exact absurd unfit fit
        · exact ⟨portCalls_nil, invalid⟩
    · simp only [not_forall] at known
      obtain ⟨channel, given, unknown⟩ := known
      rw [perform_unknown given unknown] at run
      obtain ⟨rfl, rfl⟩ := run.of_fail
      exact ⟨portCalls_nil, _, rfl, rfl⟩
  · intro sets right
    have known : ∀ channel, operation.channel? = some channel → channel ∈ channels := by
      intro channel given
      by_contra unknown
      exact right (Or.inl ⟨channel, given, unknown⟩)
    rcases perform_known exact models known fits sets run with ⟨_, carried⟩ | ⟨unfit, _⟩
    · exact carried
    · exact absurd (Or.inr unfit) right
  · rintro channel hertz waveform rfl known passed wrong
    rw [model] at passed
    rcases wrong with ⟨channel, ⟨⟩, unknown⟩ | outside
    · exact unknown known
    · exact outside (by exact_mod_cast Limits.frequency_between known passed)

/-- A frequency that the sine has is refused for the square, after the waveform was read. -/
theorem validation_exact_square :
    let port : Port := ⟨0, "bench"⟩
    let identity : Identity := ⟨"MHS-25A00", .integer 25000000⟩
    let operation : Operation := .setFrequency 1 (.integer 15000000)
    let fault : Fault :=
      .outOfRange "frequency 15000000 Hz" ["frequency > 10000000.0 Hz for Square"]
    ∃ early steps, (Identity.identify port).Runs early (.result identity) ∧
      (operation.perform ⟨port, identity⟩).Runs steps (.fault fault) ∧
      operation.Carried port 25000000 (portCalls steps) (.fault fault) := by
  intro port identity operation fault
  let reading := Bench.answering [":r1w1\r\n"]
  have ended : ((operation.perform ⟨port, identity⟩).runOn reading).1 = .fault fault := by
    decide +kernel
  obtain ⟨_, identified⟩ := Identity.identify_bench
  have run := (operation.perform ⟨port, identity⟩).runs_runOn reading
  rw [ended] at run
  have fits : ∀ number, operation.argument? = some number → number.Fits := by
    rintro number ⟨⟩
    exact ⟨_, @Number.toReal_natural 15000000 (by norm_num)⟩
  obtain ⟨megahertz, le, model, _, carried, _⟩ := validation_exact identified fits run
  have same : 25000000 = (megahertz : Int) * 1000000 := Number.integer.inj model
  have count : megahertz = 25 := by omega
  subst count
  have right : ¬ operation.Wrong (25 * 1000000) := by
    rintro (⟨channel, ⟨⟩, unknown⟩ | outside)
    · exact unknown (by decide)
    · exact outside (Number.integer_between.mpr ⟨by norm_num, by norm_num⟩)
  exact ⟨_, _, identified, run, carried rfl right⟩

end Operation

end SignalGenerator
