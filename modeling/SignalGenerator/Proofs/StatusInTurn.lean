import SignalGenerator.Proofs.SentFrequency
import SignalGenerator.Proofs.Setup
import SignalGenerator.Proofs.StatusTable

/-!
The status of a channel and the operations that read its settings one by one. Reading the status makes the very
requests that these operations make one after the other, up to the first one that fails, and lists what they give.
-/

namespace SignalGenerator

namespace Generator

/-- Operations done one after the other, up to the first one that fails. Then there is nothing but its fault. -/
inductive Performs (generator : Generator) : List Operation → List Step → Except Fault (List Reading) → Prop
  | none : Performs generator [] [] (.ok [])
  | failed {operation rest steps fault} : (operation.perform generator).Runs steps (.fault fault) →
      Performs generator (operation :: rest) steps (.error fault)
  | next {operation rest first later reading outcome} :
      (operation.perform generator).Runs first (.result reading) → Performs generator rest later outcome →
      Performs generator (operation :: rest) (first ++ later) (outcome.map (reading :: ·))

end Generator

instance (waveform : Waveform) : Decidable waveform.Listed :=
  inferInstanceAs (Decidable (∃ entry ∈ waveformTable, entry.waveform = waveform))

/-- What a status tells besides the waveform, and the operations that read it. -/
def statusEntries (waveform : Waveform) (channel : Int) : List (String × Operation) :=
  [("frequency (Hz)", .readFrequency channel), ("amplitude (V)", .readAmplitude channel)] ++
    (if waveform.Listed then
      [("offset (V)", .readOffset channel), ("phase (degrees)", .readPhase channel)] else []) ++
    (if waveform = .square then [("duty cycle (%)", .readDutyCycle channel)] else [])

theorem statusEntries_eq (waveform : Waveform) {channel : Int} (known : channel ∈ channels) :
    statusEntries waveform channel =
      (Adjustment.ofWaveform waveform channel).map fun adjustment =>
        (adjustment.label, adjustment.reading channel) := by
  have each : ∀ channel ∈ channels, statusEntries waveform channel =
      (Adjustment.ofWaveform waveform channel).map fun adjustment =>
        (adjustment.label, adjustment.reading channel) := by
    cases waveform <;> decide
  exact each channel known

/-- The waveform is read and then, one after the other, what there is to tell for it. The first failure is the
outcome; without one, the status has the entries that were read, in order. -/
inductive Generator.StatusInTurn (generator : Generator) (channel : Int) :
    List Step → Except Fault ChannelStatus → Prop
  | unread {steps fault} : ((Operation.readWaveform channel).perform generator).Runs steps (.fault fault) →
      StatusInTurn generator channel steps (.error fault)
  | interrupted {waveform first later fault} :
      ((Operation.readWaveform channel).perform generator).Runs first (.result (.waveform waveform)) →
      generator.Performs ((statusEntries waveform channel).map (·.2)) later (.error fault) →
      StatusInTurn generator channel (first ++ later) (.error fault)
  | complete {waveform first later status} {values : List Binary64} :
      ((Operation.readWaveform channel).perform generator).Runs first (.result (.waveform waveform)) →
      generator.Performs ((statusEntries waveform channel).map (·.2)) later (.ok (values.map .value)) →
      Recording.statusRow status = ("waveform", .text waveform.name) ::
        ((statusEntries waveform channel).map (·.1)).zip (values.map .real) →
      StatusInTurn generator channel (first ++ later) (.ok status)

theorem Waveform.name_injective : Function.Injective name := by
  intro first second same
  cases first <;> cases second <;> first | rfl | exact absurd same (by decide)

theorem Adjustment.label_injective : Function.Injective label := by
  intro first second same
  cases first <;> cases second <;> first | rfl | exact absurd same (by decide)

theorem Recording.statusRow_injective : Function.Injective statusRow := by
  rintro ⟨first, readings⟩ ⟨second, others⟩ same
  obtain ⟨name, entries⟩ := List.cons_eq_cons.mp same
  have waveforms : first = second := Waveform.name_injective (Field.text.inj (Prod.mk.inj name).2)
  have settings : readings = others := by
    refine List.map_injective_iff.mpr (fun one other equal => ?_) entries
    obtain ⟨label, value⟩ := Prod.mk.inj equal
    exact Prod.ext (Adjustment.label_injective label) (Field.real.inj value)
  rw [waveforms, settings]

section

variable {α : Type} {f : α → Reading} {program : Program α} {steps : List Step}

theorem Operation.giving_result_iff {reading : Reading} :
    (giving f program).Runs steps (.result reading) ↔
      ∃ value, reading = f value ∧ program.Runs steps (.result value) := by
  refine (@Program.runs_map_iff _ _ program steps f (.ok reading)).trans ⟨?_, ?_⟩
  · rintro ⟨_ | value, same, run⟩
    · cases same
    · exact ⟨value, Except.ok.inj same, run⟩
  · rintro ⟨value, rfl, run⟩
    exact ⟨.ok value, rfl, run⟩

theorem Operation.giving_fault_iff {fault : Fault} :
    (giving f program).Runs steps (.fault fault) ↔ program.Runs steps (.fault fault) := by
  refine (@Program.runs_map_iff _ _ program steps f (.error fault)).trans
    ⟨?_, fun run => ⟨.error fault, rfl, run⟩⟩
  rintro ⟨_ | value, same, run⟩
  · cases same
    exact run
  · cases same

end

section

variable {generator : Generator} {channel : Int} (known : channel ∈ channels) {steps : List Step}
include known

theorem Adjustment.perform_reading (adjustment : Adjustment) :
    (adjustment.reading channel).perform generator =
      Operation.giving .value (Setting.readAdjustment generator.port channel adjustment) := by
  cases adjustment <;> exact congrArg (Operation.giving _) (Generator.onChannel_known known _)

/-- Reading settings one after the other is doing the operations that read them. -/
theorem ChannelStatus.readEach_performs {adjustments : List Adjustment} {outcome : Except Fault (List Reading)} :
    generator.Performs (adjustments.map (·.reading channel)) steps outcome ↔
      ∃ given, outcome = given.map (·.map fun entry => .value entry.2) ∧
        (readEach generator.port channel adjustments).Runs steps (.ofExcept given) := by
  induction adjustments generalizing steps outcome with
  | nil =>
    constructor
    · rintro ⟨⟩
      exact ⟨.ok [], rfl, .result⟩
    · rintro ⟨given, rfl, run⟩
      obtain ⟨rfl, same⟩ := run.of_result
      cases Outcome.ofExcept_eq_result.mp same
      exact .none
  | cons adjustment rest ih =>
    have reading := @Adjustment.perform_reading generator channel known adjustment
    constructor
    · intro performed
      cases performed with
      | failed stopped =>
        rw [reading, Operation.giving_fault_iff] at stopped
        exact ⟨.error _, rfl, stopped.stops⟩
      | next begun others =>
        rw [reading, Operation.giving_result_iff] at begun
        obtain ⟨value, rfl, begun⟩ := begun
        obtain ⟨given, rfl, going⟩ := ih.mp others
        refine ⟨given.map ((adjustment, value) :: ·), ?_, begun.andThen ?_⟩
        · cases given <;> rfl
        · exact Program.runs_map_iff.mpr ⟨given, rfl, going⟩
    · rintro ⟨given, rfl, run⟩
      rcases Program.runs_bind_iff.mp run with
        ⟨value, first, later, rfl, begun, continued⟩ | ⟨fault, stopped, rfl⟩
      · obtain ⟨readings, rfl, going⟩ := Program.runs_map_iff.mp continued
        have performed := Generator.Performs.next
          (reading ▸ Operation.giving_result_iff.mpr ⟨value, rfl, begun⟩) (ih.mpr ⟨readings, rfl, going⟩)
        cases readings <;> exact performed
      · exact .failed (reading ▸ Operation.giving_fault_iff.mpr stopped)

theorem ChannelStatus.statusEntries_performs {waveform : Waveform} {outcome : Except Fault (List Reading)} :
    generator.Performs ((statusEntries waveform channel).map (·.2)) steps outcome ↔
      ∃ given, outcome = given.map (·.map fun entry => .value entry.2) ∧
        (readEach generator.port channel (Adjustment.ofWaveform waveform channel)).Runs steps
          (.ofExcept given) := by
  rw [statusEntries_eq waveform known, List.map_map]
  exact readEach_performs known

/-- The row of a status that has been read, taken apart into names and values. -/
theorem Recording.statusRow_eq {waveform : Waveform} {readings : List (Adjustment × Binary64)}
    (settings : readings.map (·.1) = Adjustment.ofWaveform waveform channel) :
    statusRow ⟨waveform, readings⟩ = ("waveform", .text waveform.name) ::
      ((statusEntries waveform channel).map (·.1)).zip ((readings.map (·.2)).map .real) := by
  have labels : (statusEntries waveform channel).map (·.1) = readings.map fun entry => entry.1.label := by
    rw [statusEntries_eq waveform known, ← settings, List.map_map, List.map_map]
    rfl
  rw [labels, statusRow, List.map_map, List.zip_map']
  rfl

theorem Operation.perform_readWaveform :
    (readWaveform channel).perform generator = giving .waveform (Setting.readWaveform generator.port channel) :=
  congrArg (giving _) (Generator.onChannel_known known _)

theorem ChannelStatus.read_in_turn {outcome : Except Fault ChannelStatus} :
    (read generator.port channel).Runs steps (.ofExcept outcome) ↔
      generator.StatusInTurn channel steps outcome := by
  have waveformRead := @Operation.perform_readWaveform generator channel known
  constructor
  · intro run
    rcases Program.runs_bind_iff.mp run with
      ⟨waveform, first, later, rfl, begun, continued⟩ | ⟨fault, stopped, rfl⟩
    · obtain ⟨given, rfl, going⟩ := Program.runs_map_iff.mp continued
      have begun : ((Operation.readWaveform channel).perform generator).Runs first
          (.result (.waveform waveform)) :=
        waveformRead ▸ Operation.giving_result_iff.mpr ⟨waveform, rfl, begun⟩
      have performed := (statusEntries_performs known).mpr ⟨given, rfl, going⟩
      cases given with
      | error fault => exact .interrupted begun performed
      | ok readings =>
        have values : generator.Performs ((statusEntries waveform channel).map (·.2)) later
            (.ok ((readings.map (·.2)).map .value)) := by rwa [List.map_map]
        exact .complete begun values (Recording.statusRow_eq known (readEach_settings going))
    · exact .unread (waveformRead ▸ Operation.giving_fault_iff.mpr stopped)
  · intro turns
    cases turns with
    | unread stopped =>
      rw [waveformRead, Operation.giving_fault_iff] at stopped
      exact stopped.stops
    | interrupted begun performed =>
      rw [waveformRead, Operation.giving_result_iff] at begun
      obtain ⟨waveform, same, begun⟩ := begun
      cases same
      obtain ⟨_ | readings, same, going⟩ := (statusEntries_performs known).mp performed
      · cases same
        exact begun.andThen (Program.runs_map_iff.mpr ⟨.error _, rfl, going⟩)
      · cases same
    | @complete _ _ _ status values begun performed row =>
      rw [waveformRead, Operation.giving_result_iff] at begun
      obtain ⟨waveform, same, begun⟩ := begun
      cases same
      obtain ⟨_ | readings, same, going⟩ := (statusEntries_performs known).mp performed
      · cases same
      have texts : values.map Reading.value = (readings.map (·.2)).map .value :=
        (Except.ok.inj same).trans List.map_map.symm
      have equal : values = readings.map (·.2) :=
        List.map_injective_iff.mpr (fun _ _ => Reading.value.inj) texts
      rw [equal, ← Recording.statusRow_eq known (readEach_settings going)] at row
      rw [Recording.statusRow_injective row]
      exact begun.andThen (Program.runs_map_iff.mpr ⟨.ok readings, rfl, going⟩)

end

/-- Reading the status of a channel is reading the waveform and then what there is to tell for it, one after the
other, with the same requests and answers and the same outcome, whatever the answers are. -/
theorem Operation.status_in_turn {channel : Int} (known : channel ∈ channels) (generator : Generator)
    (steps : List Step) (ending : Outcome Reading) :
    ((readStatus channel).perform generator).Runs steps ending ↔
      ∃ outcome, ending = .ofExcept (outcome.map .status) ∧ generator.StatusInTurn channel steps outcome := by
  have read (outcome : Except Fault ChannelStatus) :
      (generator.readStatus channel).Runs steps (.ofExcept outcome) ↔
        generator.StatusInTurn channel steps outcome := by
    rw [Generator.readStatus, Generator.onChannel_known known]
    exact ChannelStatus.read_in_turn known
  constructor
  · intro run
    rcases giving_runs run with ⟨status, done, rfl⟩ | ⟨fault, stopped, rfl⟩ | ⟨stuck, _⟩
    · exact ⟨.ok status, rfl, (read _).mp done⟩
    · exact ⟨.error fault, rfl, (read _).mp stopped⟩
    · obtain ⟨_, _ | _, same, _⟩ := Acquisition.readStatus_learns steps _ stuck <;> cases same
  · rintro ⟨outcome, rfl, inTurn⟩
    exact Program.runs_map_iff.mpr ⟨outcome, rfl, (read outcome).mpr inTurn⟩

/-- All settings of a square wave. -/
theorem Operation.status_in_turn_square :
    let generator : Generator := ⟨⟨0, "bench"⟩, ⟨"MHS-25A00", .integer 25000000⟩⟩
    let program := (readStatus 2).perform generator
    let bench := Bench.answering [":r2w1\r\n", ":r2f100000\r\n", ":r2y1\r\n", ":r2a500\r\n", ":r2y1\r\n",
      ":r2a500\r\n", ":r2o130\r\n", ":r2p45\r\n", ":r2d250\r\n"]
    let status : ChannelStatus := ⟨.square, [(.frequency, .ofInt 1000), (.amplitude, .ofInt 5),
      (.offset, .ofDecimal false 5 (-1)), (.phase, .ofInt 45), (.dutyCycle, .ofInt 25)]⟩
    (2 : Int) ∈ channels ∧ (program.runOn bench).1 = .result (.status status) ∧
      generator.StatusInTurn 2 (program.stepsOn bench) (.ok status) := by
  intro generator program bench status
  have known : (2 : Int) ∈ channels := by decide
  have ended : (program.runOn bench).1 = .result (.status status) := by decide +kernel
  have run := program.runs_runOn bench
  obtain ⟨_ | given, same, turns⟩ := (status_in_turn known generator _ _).mp run
  · cases ended.symm.trans same
  · cases ended.symm.trans same
    exact ⟨known, ended, turns⟩

end SignalGenerator
