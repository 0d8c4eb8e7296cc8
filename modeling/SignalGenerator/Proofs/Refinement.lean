import SignalGenerator.Proofs.Conversation
import SignalGenerator.Proofs.Registers

/-!
A session refines the registers of the generator. Every exchange reaches the register that it is meant
for, so in a session of any length each operation does to the registers what it stands for.
-/

namespace SignalGenerator

namespace Device

variable {port : Port} {device last : Device} {file : RegisterFile} {channel : Int}
  {calls : List PortCall} {steps : List Step}

namespace Served

theorem attenuationRead {attenuation : Attenuation} (known : channel ∈ channels)
    (read : AttenuationRead port channel attenuation calls) (rests : device.Rests file)
    (served : Served port device calls last) :
    attenuation = file.attenuation channel ∧ last.Rests file := by
  obtain ⟨n, asked, found⟩ := read
  obtain ⟨rfl, resting⟩ := served.exchanged (Command.asks_read known _) asked rests
  rw [file.ofId?_attenuation] at found
  exact ⟨(Option.some.inj found).symm, resting⟩

theorem attenuationUnread (known : channel ∈ channels) (unread : AttenuationUnread port channel calls)
    (rests : device.Rests file) : ¬ Served port device calls last := by
  intro served
  cases unread with
  | unanswered made => exact not_failed (Command.asks_read known _) rests made served
  | unknown asked lost =>
    obtain ⟨rfl, _⟩ := served.exchanged (Command.asks_read known _) asked rests
    rw [file.ofId?_attenuation] at lost
    cases lost

theorem amplitudeRead {amplitude : Binary64} (known : channel ∈ channels)
    (read : AmplitudeRead port channel amplitude calls) (rests : device.Rests file)
    (served : Served port device calls last) :
    file.amplitude channel = .ok amplitude ∧ last.Rests file := by
  cases read with
  | scaled switched asked decoded =>
    obtain ⟨middle, early, late⟩ := served.append
    obtain ⟨rfl, between⟩ := early.attenuationRead known switched rests
    obtain ⟨rfl, resting⟩ := late.exchanged (Command.asks_read known _) asked between
    exact ⟨decoded, resting⟩

theorem amplitudeUnread (known : channel ∈ channels) (unread : AmplitudeUnread port channel calls)
    (rests : device.Rests file) : ¬ Served port device calls last := by
  intro served
  cases unread with
  | unscaled unread => exact attenuationUnread known unread rests served
  | unanswered switched made =>
    obtain ⟨middle, early, late⟩ := served.append
    obtain ⟨_, between⟩ := early.attenuationRead known switched rests
    exact not_failed (Command.asks_read known _) between made late

end Served

/-- A program that begins with a reading goes on with the number that is kept. -/
theorem read_bind {α : Type} {command : Command} {cell : Cell} {next : Int → Program α}
    {ending : Outcome α} (asks : command.Asks cell) (rests : device.Rests file)
    (run : ((Setting.read port command).bind next).Runs steps ending)
    (served : Served port device (portCalls steps) last) :
    ∃ middle rest, (next (file.value cell)).Runs rest ending ∧ middle.Rests file ∧
      Served port middle (portCalls rest) last := by
  have framed := Exchange.frame_of_ascii fun c member => (asks.inside c member).1
  rcases Setting.read_bind_runs framed run with
    ⟨n, first, rest, rfl, asked, continued⟩ | ⟨_, _, made⟩
  · rw [portCalls_append] at served
    obtain ⟨middle, early, late⟩ := served.append
    obtain ⟨rfl, resting⟩ := early.exchanged asks asked rests
    exact ⟨middle, rest, continued, resting, late⟩
  · refine absurd served (Served.not_failed asks rests ?_)
    unfold Command.transaction
    rw [asks.expects]
    exact made

theorem resting_of_result {α : Type} {value : α} {ending : Outcome α} (rests : device.Rests file)
    (run : (Program.result value).Runs steps ending)
    (served : Served port device (portCalls steps) last) :
    ending = .result value ∧ last.Rests file := by
  obtain ⟨rfl, rfl⟩ := run.of_result
  rw [served.of_nil]
  exact ⟨rfl, rests⟩

/-- A reading that is decoded gives the decoding of the number that is kept. -/
theorem decoded {command : Command} {cell : Cell} {ending : Outcome Binary64} {x : Binary64}
    (decode : Int → Except ArithmeticFault Binary64) (asks : command.Asks cell)
    (given : decode (file.value cell) = .ok x) (rests : device.Rests file)
    (run : ((Setting.read port command).bind fun raw => .ofArithmetic (decode raw)).Runs steps ending)
    (served : Served port device (portCalls steps) last) :
    ending = .result x ∧ last.Rests file := by
  obtain ⟨middle, rest, continued, resting, late⟩ := read_bind asks rests run served
  rw [given] at continued
  exact resting_of_result resting continued late

theorem readAttenuation (known : channel ∈ channels) {ending : Outcome Attenuation}
    (rests : device.Rests file) (run : (Setting.readAttenuation port channel).Runs steps ending)
    (served : Served port device (portCalls steps) last) :
    ending = .result (file.attenuation channel) ∧ last.Rests file := by
  rcases Setting.readAttenuation_runs known run with ⟨attenuation, rfl, read⟩ | ⟨_, _, unread⟩
  · obtain ⟨rfl, resting⟩ := served.attenuationRead known read rests
    exact ⟨rfl, resting⟩
  · exact absurd served (Served.attenuationUnread known unread rests)

theorem readAmplitude (known : channel ∈ channels) {ending : Outcome Binary64} {volts : Binary64}
    (found : file.amplitude channel = .ok volts) (rests : device.Rests file)
    (run : (Setting.readAmplitude port channel).Runs steps ending)
    (served : Served port device (portCalls steps) last) :
    ending = .result volts ∧ last.Rests file := by
  rcases Setting.readAmplitude_runs known run with ⟨volts, rfl, read⟩ | ⟨_, _, unread⟩
  · obtain ⟨again, resting⟩ := served.amplitudeRead known read rests
    cases Except.ok.inj (found.symm.trans again)
    exact ⟨rfl, resting⟩
  · exact absurd served (Served.amplitudeUnread known unread rests)

/-- An offset is decoded with the amplitude that is read before it. -/
theorem readOffset (known : channel ∈ channels) {ending : Outcome Binary64} {amplitude volts : Binary64}
    (found : file.amplitude channel = .ok amplitude)
    (given : Scaling.decodeOffset (file.value (.register channel .offset)) (.real amplitude) = .ok volts)
    (rests : device.Rests file) (run : (Setting.readOffset port channel).Runs steps ending)
    (served : Served port device (portCalls steps) last) :
    ending = .result volts ∧ last.Rests file := by
  unfold Setting.readOffset at run
  rcases run.of_settled_bind (fun _ _ => Setting.readAmplitude_runs known) with
    ⟨_, first, rest, rfl, read, going⟩ | ⟨_, _, unread⟩
  · rw [portCalls_append] at served
    obtain ⟨middle, early, late⟩ := served.append
    obtain ⟨again, between⟩ := early.amplitudeRead known read rests
    cases Except.ok.inj (found.symm.trans again)
    exact decoded (fun raw => Scaling.decodeOffset raw (.real amplitude))
      (Command.asks_read known .offset) given between going late
  · exact absurd served (Served.amplitudeUnread known unread rests)

theorem readWaveform (known : channel ∈ channels) {ending : Outcome Waveform}
    (rests : device.Rests file) (run : (Setting.readWaveform port channel).Runs steps ending)
    (served : Served port device (portCalls steps) last) :
    ending = .result (.ofId (file.value (.register channel .waveform))) ∧ last.Rests file := by
  obtain ⟨_, _, ended, resting, late⟩ := read_bind (Command.asks_read known _) rests run served
  exact resting_of_result resting ended late

theorem readOutput {ending : Outcome Bool} (rests : device.Rests file)
    (run : (Setting.readOutput port).Runs steps ending)
    (served : Served port device (portCalls steps) last) :
    ending = .result (decide (file.value .output ≠ 0)) ∧ last.Rests file := by
  obtain ⟨_, _, ended, resting, late⟩ := read_bind Command.asks_readOutput rests run served
  exact resting_of_result resting ended late

end Device

namespace Operation

variable {generator : Generator} {device last : Device} {file : RegisterFile} {operation : Operation}
  {steps : List Step} {ending : Outcome Reading}

/-- What a program gives on the generator is what its operation gives. -/
theorem giving_rests {α : Type} {reading : α → Reading} {program : Program α} {value : α}
    (gives : ∀ inner, program.Runs steps inner → inner = .result value ∧ last.Rests file)
    (run : (giving reading program).Runs steps ending) :
    ending = .result (reading value) ∧ last.Rests file := by
  rcases giving_runs run with ⟨_, done, rfl⟩ | ⟨_, failed, _⟩ | ⟨stuck, _⟩
  · obtain ⟨same, resting⟩ := gives _ done
    cases same
    exact ⟨rfl, resting⟩
  · cases (gives _ failed).1
  · cases (gives _ stuck).1

/-- An operation that only reads gives the decoding of the registers, and leaves them as they are. -/
theorem perform_shows (known : operation.Known) (panel : operation.OnPanel)
    (reads : operation.readBack? = none) (rests : device.Rests file)
    (run : (operation.perform generator).Runs steps ending)
    (served : device.Served generator.port (portCalls steps) last) :
    ∃ reading, ending = .result reading ∧ file.Shows operation reading ∧ last.Rests file := by
  have small := file.natAbs_lt
  cases operation
  case readWaveform channel =>
    rw [perform, Generator.readWaveform, Generator.onChannel_known (known channel rfl)] at run
    obtain ⟨rfl, resting⟩ := giving_rests
      (fun _ inner => Device.readWaveform (known channel rfl) rests inner served) run
    exact ⟨_, rfl, .waveform, resting⟩
  case readAttenuation channel =>
    rw [perform, Generator.readAttenuation, Generator.onChannel_known (known channel rfl)] at run
    obtain ⟨rfl, resting⟩ := giving_rests
      (fun _ inner => Device.readAttenuation (known channel rfl) rests inner served) run
    exact ⟨_, rfl, .attenuation, resting⟩
  case readOutput =>
    obtain ⟨rfl, resting⟩ := giving_rests
      (fun _ inner => Device.readOutput rests inner served) run
    exact ⟨_, rfl, .output, resting⟩
  case readFrequency channel =>
    obtain ⟨hertz, given⟩ := Scaling.decodeFrequency_ok (small (.register channel .frequency))
    rw [perform, Generator.readFrequency, Generator.onChannel_known (known channel rfl)] at run
    obtain ⟨rfl, resting⟩ := giving_rests (fun _ inner => Device.decoded Scaling.decodeFrequency
      (Command.asks_read (known channel rfl) _) given rests inner served) run
    exact ⟨_, rfl, .frequency given, resting⟩
  case readAmplitude channel =>
    obtain ⟨volts, found⟩ := file.amplitude_ok channel
    rw [perform, Generator.readAmplitude, Generator.onChannel_known (known channel rfl)] at run
    obtain ⟨rfl, resting⟩ := giving_rests
      (fun _ inner => Device.readAmplitude (known channel rfl) found rests inner served) run
    exact ⟨_, rfl, .amplitude found, resting⟩
  case readOffset channel =>
    obtain ⟨amplitude, found⟩ := file.amplitude_ok channel
    obtain ⟨volts, given⟩ := Scaling.decodeOffset_ok (small (.register channel .offset)) amplitude
    rw [perform, Generator.readOffset, Generator.onChannel_known (known channel rfl)] at run
    obtain ⟨rfl, resting⟩ := giving_rests
      (fun _ inner => Device.readOffset (known channel rfl) found given rests inner served) run
    exact ⟨_, rfl, .offset found given, resting⟩
  case readPhase channel =>
    obtain ⟨degrees, given⟩ :=
      Number.toReal_short ((small (.register channel .phase)).trans (by norm_num))
    rw [perform, Generator.readPhase, Generator.onChannel_known (known channel rfl)] at run
    obtain ⟨rfl, resting⟩ := giving_rests
      (fun _ inner => Device.decoded (fun raw => (Number.integer raw).toReal)
        (Command.asks_read (known channel rfl) _) given rests inner served) run
    exact ⟨_, rfl, .phase given, resting⟩
  case readDutyCycle channel =>
    obtain ⟨percent, given⟩ := Scaling.decodeDutyCycle_ok (small (.register channel .dutyCycle))
    rw [perform, Generator.readDutyCycle, Generator.onChannel_known (known channel rfl)] at run
    obtain ⟨rfl, resting⟩ := giving_rests (fun _ inner => Device.decoded Scaling.decodeDutyCycle
      (Command.asks_read (known channel rfl) _) given rests inner served) run
    exact ⟨_, rfl, .dutyCycle given, resting⟩
  all_goals first | exact False.elim panel | cases reads

variable {port : Port} {maximum : Nat} {calls : List PortCall}

/-- A number that is sent for a setting is stored in the register of its channel. -/
theorem stored_follows {channel : Int} {register : Register} {n : Nat} (known : operation.Known)
    (small : n < 10 ^ 28) (stores : file.Stores maximum operation (.register channel register) n)
    (sent : (Command.set channel register n).Sent port calls ending) (rests : device.Rests file)
    (served : device.Served port calls last) :
    ∃ after, last.Rests after ∧ file.Follows maximum operation ending after := by
  have present : channel ∈ channels := by cases stores <;> exact known _ rfl
  have other : register ≠ .attenuation := by
    rintro rfl
    cases stores
  obtain ⟨rfl, resting⟩ := Device.Served.sent (Command.tells_set present other small) rests sent served
  exact ⟨_, resting, .stored known stores rfl⟩

theorem refused_follows (sets : operation.register?.isSome)
    (refused : ∀ cell n, ¬ file.Stores maximum operation cell n) (invalid : Invalid ending)
    (rests : last.Rests file) :
    ∃ after, last.Rests after ∧ file.Follows maximum operation ending after :=
  ⟨file, rests, .refused sets refused invalid⟩

/-- An operation that is carried out on the generator does to its registers what it stands for. -/
theorem Carried.follows (carried : operation.Carried port maximum calls ending)
    (known : operation.Known) (fit : ¬ operation.Unfit maximum) (models : maximum ≤ 99000000)
    (rests : device.Rests file) (served : device.Served port calls last) :
    ∃ after, last.Rests after ∧ file.Follows maximum operation ending after := by
  cases carried with
  | @waveform channel waveform calls ending sent =>
    have small : waveform.id < 10 ^ 28 := by cases waveform <;> decide
    exact stored_follows known small (.waveform fit) sent rests served
  | phase encoded sent =>
    obtain ⟨n, rfl, le⟩ := Scaling.encodePhase_range encoded
    exact stored_follows known (by omega) (.phase encoded) sent rests served
  | dutyCycle encoded sent =>
    have between := not_not.mp fit
    obtain ⟨n, scaled, le⟩ := Scaling.encodeDutyCycle_within between
    cases Except.ok.inj (encoded.symm.trans scaled)
    exact stored_follows known (by omega) (.dutyCycle between encoded) sent rests
      served
  | amplitudeUnread unread =>
    exact absurd served (Device.Served.attenuationUnread (known _ rfl) unread rests)
  | amplitude read encoded sent =>
    have between := not_not.mp fit
    obtain ⟨middle, early, late⟩ := served.append
    obtain ⟨rfl, resting⟩ := early.attenuationRead (known _ rfl) read rests
    obtain ⟨n, scaled, le⟩ := Scaling.encodeAmplitude_within between _
    cases Except.ok.inj (encoded.symm.trans scaled)
    have low := le.trans (Scaling.highestAmplitude_le _)
    exact stored_follows known (by omega) (.amplitude between encoded) sent resting late
  | frequencyUnread made =>
    exact absurd served (Device.Served.not_failed (Command.asks_read (known _ rfl) _) rests made)
  | frequencyRefused asked listed said invalid =>
    obtain ⟨rfl, resting⟩ := served.exchanged (Command.asks_read (known _ rfl) _) asked rests
    refine refused_follows rfl ?_ invalid resting
    intro cell n stores
    cases stores with | frequency passed _
    exact said (Except.ok.inj (listed.symm.trans passed))
  | frequency asked passed encoded sent =>
    obtain ⟨middle, early, late⟩ := served.append
    obtain ⟨rfl, resting⟩ := early.exchanged (Command.asks_read (known _ rfl) _) asked rests
    obtain ⟨n, scaled, le⟩ := Scaling.encodeFrequency_within (not_not.mp fit) (by omega)
    cases Except.ok.inj (encoded.symm.trans scaled)
    exact stored_follows known (by omega) (.frequency passed encoded) sent resting
      late
  | offsetUnread unread =>
    exact absurd served (Device.Served.amplitudeUnread (known _ rfl) unread rests)
  | offsetRefused read none invalid =>
    obtain ⟨found, resting⟩ := served.amplitudeRead (known _ rfl) read rests
    refine refused_follows rfl ?_ invalid resting
    intro cell n stores
    cases stores with | offset _ again share _
    cases Except.ok.inj (found.symm.trans again)
    exact none _ share
  | @offset channel volts amplitude percent raw first rest ending read share encoded sent =>
    obtain ⟨middle, early, late⟩ := served.append
    obtain ⟨found, resting⟩ := early.amplitudeRead (known _ rfl) read rests
    have between : Number.Between (.integer (-120)) 120 (.real percent) := share.between
    obtain ⟨n, scaled, le⟩ := Scaling.encodeOffsetPercent_within between
    cases Except.ok.inj (encoded.symm.trans scaled)
    exact stored_follows known (by omega)
      (.offset (not_not.mp fit) found share encoded) sent resting late

theorem setOutput_follows {enabled : Bool}
    (run : ((setOutput enabled).perform generator).Runs steps ending) (rests : device.Rests file)
    (served : device.Served generator.port (portCalls steps) last) :
    ∃ after, last.Rests after ∧ file.Follows maximum (.setOutput enabled) ending after := by
  have ascii : ∀ c ∈ (Command.setOutput enabled).text.toList, c.toNat < 128 := by
    refine ascii_of_all ?_
    cases enabled <;> decide
  have sent := write_runs rfl (Exchange.frame_of_ascii ascii) run
  obtain ⟨rfl, resting⟩ := Device.Served.sent (Command.tells_setOutput enabled) rests sent served
  exact ⟨_, resting, .stored nofun .output rfl⟩

/-- Every operation on the panel does to the registers what it stands for. -/
theorem perform_follows (model : generator.identity.maxFrequency = .integer maximum)
    (models : maximum ≤ 99000000) (panel : operation.OnPanel)
    (fits : ∀ number, operation.argument? = some number → number.Fits)
    (run : (operation.perform generator).Runs steps ending) (rests : device.Rests file)
    (served : device.Served generator.port (portCalls steps) last) :
    ∃ after, last.Rests after ∧ file.Follows maximum operation ending after := by
  by_cases known : operation.Known
  · by_cases sets : operation.register?.isSome
    · rcases perform_known model models known fits sets run with ⟨fit, carried⟩ | ⟨unfit, rfl, invalid⟩
      · exact carried.follows known fit models rests served
      · rw [served.of_nil]
        exact refused_follows sets (fun _ _ stores => stores.fit known unfit) invalid rests
    · by_cases output : ∃ enabled, operation = .setOutput enabled
      · obtain ⟨enabled, rfl⟩ := output
        exact setOutput_follows run rests served
      · have reads : operation.readBack? = none := by
          cases operation <;> first | rfl | exact absurd rfl sets | exact absurd ⟨_, rfl⟩ output
        obtain ⟨reading, rfl, shows, resting⟩ := perform_shows known panel reads rests run served
        exact ⟨file, resting, .shown known shows⟩
  · have strange := known
    simp only [Known, not_forall] at known
    obtain ⟨channel, given, unknown⟩ := known
    rw [perform_unknown given unknown] at run
    obtain ⟨rfl, rfl⟩ := run.of_fail
    rw [served.of_nil]
    exact ⟨file, rests, .unknown strange ⟨_, rfl, rfl⟩⟩

end Operation

namespace Desk

/-- Performs one operation after the other on a desk. -/
def events (generator : Generator) : List Operation → Desk → List Event
  | [], _ => []
  | operation :: later, desk =>
    let (ending, after) := (operation.perform generator).runIn Desk.answer desk
    ⟨desk.device.file, operation, ending, after.device.file⟩ :: events generator later after

/-- A session on a desk is a history of the registers of its generator. -/
theorem events_history {generator : Generator} {maximum : Nat}
    (model : generator.identity.maxFrequency = .integer maximum) (models : maximum ≤ 99000000)
    {operations : List Operation} (panel : ∀ operation ∈ operations, operation.OnPanel)
    (fits : ∀ operation ∈ operations, ∀ number, operation.argument? = some number → number.Fits)
    {desk : Desk} (attached : desk.port = generator.port) (idle : desk.device.waiting = []) :
    desk.device.file.History maximum operations (events generator operations desk) := by
  induction operations generalizing desk with
  | nil => exact .nil
  | cons operation later ih =>
    rw [List.forall_mem_cons] at panel fits
    obtain ⟨steps, run, served⟩ := desk.runs_runIn (operation.perform generator)
    rw [attached] at served
    obtain ⟨after, resting, follows⟩ :=
      Operation.perform_follows model models panel.1 fits.1 run ⟨rfl, idle⟩ served
    rw [← resting.file] at follows
    refine .cons follows (ih panel.2 fits.2 ?_ resting.idle)
    rw [runIn_port, attached]

/-- Every session refines the registers of its generator: from any registers, with any operations in
any order, and however the generator words its replies. What is read right after a setting that was
accepted is that setting, encoded and decoded. -/
theorem refines_registers {port : Port} {identity : Identity} {early : List Step}
    {operations : List Operation} {desk : Desk}
    (identified : (Identity.identify port).Runs early (.result identity))
    (panel : ∀ operation ∈ operations, operation.OnPanel)
    (fits : ∀ operation ∈ operations, ∀ number, operation.argument? = some number → number.Fits)
    (attached : desk.port = port) (idle : desk.device.waiting = []) :
    ∃ megahertz ≤ 99, identity.maxFrequency = .integer ((megahertz : Nat) * 1000000) ∧
      desk.device.file.History (megahertz * 1000000) operations
        (events ⟨port, identity⟩ operations desk) ∧
      ∀ earlier setting getting later,
        events ⟨port, identity⟩ operations desk = earlier ++ setting :: getting :: later →
        setting.ending = .result .done → setting.operation.readBack? = some getting.operation →
        ∃ reading, getting.ending = .result reading ∧
          setting.before.ReadBack setting.operation reading := by
  obtain ⟨megahertz, le, model⟩ := Identity.identify_maxFrequency identified
  have exact : (⟨port, identity⟩ : Generator).identity.maxFrequency =
      .integer (megahertz * 1000000 : Nat) := by
    exact_mod_cast model
  have history := events_history exact (by omega) panel fits attached idle
  refine ⟨megahertz, le, model, history, ?_⟩
  intro earlier setting getting later split accepted pair
  exact history.readBack split accepted pair

/-- An offset of -2 V is stored as a share of the 5 V that were set before, and read back. -/
theorem refines_registers_offset :
    let port : Port := ⟨0, "bench"⟩
    let identity : Identity := ⟨"MHS-25A00", .integer 25000000⟩
    let operations : List Operation :=
      [.setAmplitude 2 5, .setOffset 2 (.integer (-2)), .readOffset 2]
    let file : RegisterFile := ⟨fun _ => 0, fun _ => by decide, fun _ => Or.inl rfl⟩
    let desk : Desk := ⟨port, ⟨file, [], fun _ => ⟨true, [13, 10], by simp⟩⟩, Bench.empty ⟨0⟩⟩
    (∃ early, (Identity.identify port).Runs early (.result identity)) ∧
      (events ⟨port, identity⟩ operations desk).map Event.ending =
        [.result .done, .result .done, .result (.value (.ofInt (-2)))] ∧
      file.History 25000000 operations (events ⟨port, identity⟩ operations desk) := by
  intro port identity operations file desk
  obtain ⟨_, identified⟩ := Identity.identify_bench
  have panel : ∀ operation ∈ operations, operation.OnPanel := by
    simp [operations, Operation.OnPanel]
  have fits : ∀ operation ∈ operations, ∀ number, operation.argument? = some number →
      number.Fits := by
    intro operation member number given
    simp only [operations, List.mem_cons, List.not_mem_nil, or_false] at member
    rcases member with rfl | rfl | rfl
    · cases given
      exact Number.toReal_short (by decide)
    · cases given
      exact Number.toReal_short (by decide)
    · cases given
  have attached : desk.port = port := rfl
  have idle : desk.device.waiting = [] := rfl
  obtain ⟨megahertz, le, model, history, _⟩ :=
    refines_registers identified panel fits attached idle
  have same : 25000000 = (megahertz : Int) * 1000000 := Number.integer.inj model
  have count : megahertz = 25 := by omega
  subst count
  exact ⟨⟨_, identified⟩, by decide +kernel, history⟩

end Desk

end SignalGenerator
