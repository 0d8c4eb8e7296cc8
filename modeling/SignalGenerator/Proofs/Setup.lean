import SignalGenerator.Proofs.Opening

/-!
The plan of an acquisition. A channel gets the settings that were given, its status is read, which depends
on the waveform it has, and then the counter is started and polled.
-/

namespace SignalGenerator

open Program (Sends)

/-- Every execution of the program ends, and carries out a plan that depends on a waveform it reads. -/
def Program.Learns {α : Type} (port : Port) (plan : Waveform → List Stem) (program : Program α) : Prop :=
  ∀ steps ending, program.Runs steps ending →
    ∃ waveform outcome, ending = .ofExcept outcome ∧
      Progress port (plan waveform) (portCalls steps) outcome

namespace Program.Learns

variable {α β : Type} {port : Port} {plan : Waveform → List Stem} {later : List Stem}
  {program : Program α} {next : α → Program β}

theorem fail (fault : Fault) : (Program.fail fault : Program α).Learns port plan :=
  fun steps ending run => ⟨.unknown, Sends.fail fault steps ending run⟩

theorem after {first : Program α} (sends : first.Sends port later)
    (learns : ∀ value, (next value).Learns port plan) :
    (first.bind next).Learns port fun waveform => later ++ plan waveform := by
  intro steps ending run
  rcases sends.bind_runs run with ⟨value, early, late, rfl, whole, continued⟩ | ⟨fault, rfl, begun⟩
  · obtain ⟨waveform, outcome, rfl, progress⟩ := learns value _ _ continued
    exact ⟨waveform, outcome, rfl, portCalls_append early late ▸ progress.after whole⟩
  · exact ⟨.unknown, .error fault, rfl, begun.append _⟩

theorem bind (learns : program.Learns port plan) (sends : ∀ value, (next value).Sends port later) :
    (program.bind next).Learns port fun waveform => plan waveform ++ later := by
  have settled : ∀ steps ending, program.Runs steps ending →
      (∃ value, ending = .result value ∧ ∃ waveform, Completes port (plan waveform) (portCalls steps)) ∨
        ∃ fault, ending = .fault fault ∧ ∃ waveform, Begins port (plan waveform) (portCalls steps) := by
    intro steps ending run
    obtain ⟨waveform, fault | value, rfl, progress⟩ := learns steps ending run
    · exact Or.inr ⟨fault, rfl, waveform, progress⟩
    · exact Or.inl ⟨value, rfl, waveform, progress⟩
  intro steps ending run
  rcases run.of_settled_bind settled with ⟨value, early, late, rfl, ⟨waveform, whole⟩, continued⟩ |
    ⟨fault, rfl, waveform, begun⟩
  · obtain ⟨outcome, rfl, progress⟩ := sends value _ _ continued
    exact ⟨waveform, outcome, rfl, portCalls_append early late ▸ progress.after whole⟩
  · exact ⟨waveform, .error fault, rfl, begun.append later⟩

/-- What the generator answers about its waveform decides what comes after. -/
theorem readWaveform_bind {channel : Int} (known : channel ∈ channels)
    {next : Waveform → Program β} (sends : ∀ waveform, (next waveform).Sends port (plan waveform)) :
    ((Setting.readWaveform port channel).bind next).Learns port
      fun waveform => .waveform channel waveform :: plan waveform := by
  intro steps ending run
  rcases run.of_settled_bind (fun _ _ => Setting.readWaveform_runs known) with
    ⟨waveform, early, late, rfl, ⟨n, rfl, exchanged⟩, continued⟩ | ⟨fault, rfl, made⟩
  · obtain ⟨outcome, rfl, progress⟩ := sends (.ofId n) _ _ continued
    have asked : Completes port [.waveform channel (.ofId n)] (portCalls early) := by
      obtain ⟨line, answers, made⟩ := exchanged.makes
      refine .single ⟨_, .waveform, made, fun _ same => ?_⟩
      exact Option.some.inj same ▸ ⟨n, answers, rfl⟩
    exact ⟨_, outcome, rfl, portCalls_append early late ▸ progress.after asked⟩
  · exact ⟨.unknown, .error fault, rfl, .failed ⟨_, .waveform, made, nofun⟩⟩

end Program.Learns

/-- Whether a command of the counter is to be sent. -/
def Stem.ofCounter : Stem → Bool
  | .command (.enableCounter _) | .command (.selectFunction _) | .command .readCounter => true
  | _ => false

namespace Acquisition

/-- The exchanges for a setting, if it was given. -/
def supplied {α : Type} (setting : Option α) (stems : α → List Stem) : List Stem :=
  setting.elim [] stems

/-- The settings that were given, each after the readings it depends on. -/
def settingsPlan (arguments : Arguments) (channel : Int) : List Stem :=
  supplied arguments.waveform (fun _ => [.setting channel .waveform]) ++
  supplied arguments.frequency (fun _ =>
    [.command (.read channel .waveform), .setting channel .frequency]) ++
  supplied arguments.amplitude (fun _ =>
    [.command (.read channel .attenuation), .setting channel .amplitude]) ++
  supplied arguments.offset (fun _ =>
    [.command (.read channel .attenuation), .command (.read channel .amplitude),
      .setting channel .offset]) ++
  supplied arguments.phase (fun _ => [.setting channel .phase]) ++
  supplied arguments.dutyCycle (fun _ => [.setting channel .dutyCycle]) ++
  supplied arguments.output (fun given => [.command (.setOutput (isOn given))])

/-- What is read of a channel with a waveform that is in the table of the channel. -/
def tablePlan (channel : Int) : List Stem :=
  [.command (.read channel .attenuation), .command (.read channel .amplitude),
    .command (.read channel .offset), .command (.read channel .phase)]

/-- The status of a channel: which waveform it has, and then what there is with this waveform. -/
def statusPlan (channel : Int) (waveform : Waveform) : List Stem :=
  [.waveform channel waveform, .command (.read channel .frequency),
    .command (.read channel .attenuation), .command (.read channel .amplitude)] ++
  (if waveform ∈ waveformTable.map (·.waveform) then tablePlan channel else []) ++
  (if waveform = .square then [.command (.read channel .dutyCycle)] else [])

/-- The gate time, if one was given. -/
def gatePlan (arguments : Arguments) : List Stem :=
  supplied arguments.gateTime fun
    | .value gateTime => [.command (.setGateTime gateTime)]
    | .blank => []

/-- Everything before the counter is turned on. -/
def setupPlan (arguments : Arguments) (channel : Int) (waveform : Waveform) : List Stem :=
  settingsPlan arguments channel ++ (statusPlan channel waveform ++ gatePlan arguments)

/-- The counter is turned on, and measures the frequency to begin with. -/
def startPlan : List Stem :=
  [.command (.enableCounter true), .command (.selectFunction .frequency)]

/-- One poll: frequency, period, duty cycle and pulse width. -/
def roundPlan : List Stem :=
  [.command (.selectFunction .frequency), .command .readCounter,
    .command (.selectFunction .period), .command .readCounter,
    .command (.selectFunction .dutyCycle), .command .readCounter,
    .command (.selectFunction .pulseWidth), .command .readCounter]

def pollingPlan (rounds : Nat) : List Stem := (List.replicate rounds roundPlan).flatten

def countingPlan (rounds : Nat) : List Stem := startPlan ++ pollingPlan rounds

/-- Everything that is exchanged with a generator until the counter is turned off. -/
def plan (arguments : Arguments) (channel : Int) (waveform : Waveform) (rounds : Nat) : List Stem :=
  .command .readModel :: (setupPlan arguments channel waveform ++ countingPlan rounds)

theorem pollingPlan_succ (rounds : Nat) :
    pollingPlan (rounds + 1) = roundPlan ++ pollingPlan rounds := by
  rw [pollingPlan, List.replicate_succ, List.flatten_cons, pollingPlan]

theorem supplied_others {α : Type} {setting : Option α} {stems : α → List Stem}
    (others : ∀ value, ∀ stem ∈ stems value, stem.ofCounter = false) :
    ∀ stem ∈ supplied setting stems, stem.ofCounter = false := by
  cases setting with
  | some value => exact others value
  | none => exact List.forall_mem_nil _

theorem settingsPlan_others (arguments : Arguments) (channel : Int) :
    ∀ stem ∈ settingsPlan arguments channel, stem.ofCounter = false := by
  simp only [settingsPlan, List.forall_mem_append]
  refine ⟨⟨⟨⟨⟨⟨?_, ?_⟩, ?_⟩, ?_⟩, ?_⟩, ?_⟩, ?_⟩
  all_goals
    refine supplied_others fun value => ?_
    simp [Stem.ofCounter]

theorem statusPlan_others (channel : Int) (waveform : Waveform) :
    ∀ stem ∈ statusPlan channel waveform, stem.ofCounter = false := by
  simp only [statusPlan, List.forall_mem_append]
  refine ⟨⟨?_, ?_⟩, ?_⟩
  · simp [Stem.ofCounter]
  · split <;> simp [tablePlan, Stem.ofCounter]
  · split <;> simp [Stem.ofCounter]

/-- Whatever comes before the start leaves the counter alone. -/
theorem setupPlan_others (arguments : Arguments) (channel : Int) (waveform : Waveform) :
    ∀ stem ∈ setupPlan arguments channel waveform, stem.ofCounter = false := by
  simp only [setupPlan, List.forall_mem_append]
  refine ⟨settingsPlan_others arguments channel, statusPlan_others channel waveform, ?_⟩
  refine supplied_others fun given => ?_
  cases given <;> simp [Stem.ofCounter]

/-- The channel that a command line asks for, where it asks for one. -/
def Chosen (arguments : Arguments) (channel : Int) : Prop :=
  arguments.channel = .value channel ∨ arguments.channel = .blank

section
variable {port : Port} {arguments : Arguments} {channel : Int}

theorem forSetting_sends {α : Type} {setting : Option α} {stems : α → List Stem}
    {action : α → Program Unit} (sends : ∀ value, (action value).Sends port (stems value)) :
    (forSetting setting action).Sends port (supplied setting stems) := by
  cases setting with
  | some value => exact sends value
  | none => exact .result ()

theorem applySetting_sends {α : Type} {parameter : Parameter} {quantity unit : String}
    {shown : α → String} {setting : Option (Given α)} {write : Int → α → Program Unit}
    {stems : List Stem} (chosen : Chosen arguments channel)
    (sends : ∀ value, (write channel value).Sends port stems) :
    (applySetting arguments.channel parameter quantity unit shown setting write).Sends port
      (supplied setting fun _ => stems) := by
  refine forSetting_sends fun given => (Sends.info _).silent_bind fun _ => ?_
  rcases chosen with same | blank
  · have writes : ((Program.ofExcept (given.demand parameter)).bind (write channel)).Sends port stems :=
      .ofExcept_bind sends
    rwa [same]
  · rw [blank]
    exact .fail _

theorem applySettings_sends {generator : Generator} (chosen : Chosen arguments channel) :
    (applySettings generator arguments).Sends generator.port (settingsPlan arguments channel) := by
  simp only [settingsPlan, List.append_assoc]
  refine (applySetting_sends chosen fun waveform => ?_).bind fun _ => ?_
  · exact Generator.onChannel_sends (Setting.setWaveform_sends _)
  refine (applySetting_sends chosen fun hertz => ?_).bind fun _ => ?_
  · exact generator.setFrequency_sends (.real hertz)
  refine (applySetting_sends chosen fun volts => ?_).bind fun _ => ?_
  · exact Generator.onChannel_sends (Setting.setAmplitude_sends _)
  refine (applySetting_sends chosen fun volts => ?_).bind fun _ => ?_
  · exact Generator.onChannel_sends (Setting.setOffset_sends _)
  refine (applySetting_sends chosen fun degrees => ?_).bind fun _ => ?_
  · exact Generator.onChannel_sends (Setting.setPhase_sends _)
  refine (applySetting_sends chosen fun percent => ?_).bind fun _ => ?_
  · exact Generator.onChannel_sends (Setting.setDutyCycle_sends _)
  refine forSetting_sends fun given => (Sends.info _).silent_bind fun _ => ?_
  exact Setting.write_sends rfl

/-- On a channel that there is, the status has what the table says about the waveform. -/
theorem statusPlan_eq (known : channel ∈ channels) (waveform : Waveform) :
    statusPlan channel waveform = .waveform channel waveform ::
      (Adjustment.ofWaveform waveform channel).flatMap (Adjustment.readings channel) := by
  unfold channels at known
  have one_or_two : channel = 1 ∨ channel = 2 := by simpa using known
  rcases one_or_two with rfl | rfl <;> cases waveform <;> rfl

theorem readStatus_learns {generator : Generator} :
    (generator.readStatus channel).Learns generator.port (statusPlan channel) := by
  by_cases known : channel ∈ channels
  · rw [Generator.readStatus, Generator.onChannel_known known, funext (statusPlan_eq known)]
    refine .readWaveform_bind known fun waveform => ?_
    exact (ChannelStatus.readEach_sends _).bind_silent fun _ => .result _
  · rw [Generator.readStatus, Generator.onChannel_unknown known]
    exact .fail _

theorem prepare_learns {generator : Generator} {configuration : Configuration}
    (chosen : Chosen configuration.arguments channel) :
    (prepare generator configuration).Learns generator.port
      (setupPlan configuration.arguments channel) := by
  refine .after (applySettings_sends chosen) fun _ => ?_
  have gate : ∀ given : Given GateTime,
      ((Program.ofExcept (given.demand .gateTime)).bind generator.setGateTime).Sends generator.port
        (match given with
          | .value gateTime => [.command (.setGateTime gateTime)]
          | .blank => []) := by
    intro given
    cases given with
    | value gateTime => exact Setting.write_sends rfl
    | blank => exact .fail _
  rcases chosen with same | blank
  · rw [same]
    refine readStatus_learns.bind fun status => (Sends.info _).silent_bind fun _ => ?_
    refine (Recording.settings_sends _ _ _).silent_bind fun _ => ?_
    exact (forSetting_sends gate).bind_silent fun _ => .result _
  · rw [blank]
    exact .fail _

theorem prepare_result {generator : Generator} {configuration : Configuration} {steps : List Step}
    {sampler : Sampler} (run : (prepare generator configuration).Runs steps (.result sampler)) :
    sampler = .new generator (limits configuration.arguments) := by
  obtain ⟨_, _, _, _, _, applied⟩ := run.of_bind_result
  obtain ⟨_, _, _, _, _, selected⟩ := applied.of_bind_result
  obtain ⟨_, _, _, _, _, read⟩ := selected.of_bind_result
  obtain ⟨_, _, _, _, _, shown⟩ := read.of_bind_result
  obtain ⟨_, _, _, _, _, recorded⟩ := shown.of_bind_result
  obtain ⟨_, _, _, _, _, gated⟩ := recorded.of_bind_result
  cases gated.of_result.2
  rfl

end

end Acquisition

end SignalGenerator
