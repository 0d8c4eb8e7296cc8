import SignalGenerator.Proofs.Operations

/-!
Everything that talks to a generator: a bare transaction, a setting or the counter of a port, an
operation of a generator, an operation of a sampler. Main statement: each of them makes one transaction
at a time and stops at the first call that fails.
-/

namespace SignalGenerator

open Program (TakesTurns)

/-- What talks to a generator, by the type of what it gives back. -/
inductive Dialogue : Type → Type 1
  | order (port : Port) (command : String) : Dialogue Unit
  | query (port : Port) (command : String) : Dialogue String
  | queryInteger (port : Port) (command : String) : Dialogue Int
  | identify (port : Port) : Dialogue Identity
  | readWaveform (port : Port) (channel : Int) : Dialogue Waveform
  | setWaveform (port : Port) (channel : Int) (waveform : Waveform) : Dialogue Unit
  | readAttenuation (port : Port) (channel : Int) : Dialogue Attenuation
  | readOutput (port : Port) : Dialogue Bool
  | setOutput (port : Port) (enabled : Bool) : Dialogue Unit
  | readAdjustment (port : Port) (channel : Int) (adjustment : Adjustment) : Dialogue Binary64
  | setFrequency (port : Port) (channel : Int) (hertz : Number) (waveform : Waveform)
      (maximum : Number) : Dialogue Unit
  | setAmplitude (port : Port) (channel : Int) (volts : Number) : Dialogue Unit
  | setDutyCycle (port : Port) (channel : Int) (percent : Number) : Dialogue Unit
  | setOffset (port : Port) (channel : Int) (volts : Number) : Dialogue Unit
  | setPhase (port : Port) (channel : Int) (degrees : Number) : Dialogue Unit
  | selectFunction (port : Port) (function : CounterFunction) : Dialogue Unit
  | setGateTime (port : Port) (gateTime : GateTime) : Dialogue Unit
  | enableCounter (port : Port) (enabled : Bool) : Dialogue Unit
  | readRegister (port : Port) : Dialogue Int
  | measure (port : Port) (function : CounterFunction) : Dialogue Binary64
  | operation (generator : Generator) (operation : Operation) : Dialogue Reading
  | start (sampler : Sampler) : Dialogue (Sampler × Unit)
  | poll (sampler : Sampler) (listener : Listener) : Dialogue (Sampler × List Sample)
  | stop (sampler : Sampler) : Dialogue (Sampler × Unit)

namespace Dialogue

def port {α : Type} : Dialogue α → Port
  | .order port _ | .query port _ | .queryInteger port _ | .identify port | .readWaveform port _
  | .setWaveform port _ _ | .readAttenuation port _ | .readOutput port | .setOutput port _
  | .readAdjustment port _ _ | .setFrequency port _ _ _ _ | .setAmplitude port _ _
  | .setDutyCycle port _ _ | .setOffset port _ _ | .setPhase port _ _ | .selectFunction port _
  | .setGateTime port _ | .enableCounter port _ | .readRegister port | .measure port _ => port
  | .operation generator _ => generator.port
  | .start sampler | .poll sampler _ | .stop sampler => sampler.generator.port

def program {α : Type} : Dialogue α → Program α
  | .order port command => Exchange.order port command
  | .query port command => Exchange.query port command
  | .queryInteger port command => Exchange.queryInteger port command
  | .identify port => Identity.identify port
  | .readWaveform port channel => Setting.readWaveform port channel
  | .setWaveform port channel waveform => Setting.setWaveform port channel waveform
  | .readAttenuation port channel => Setting.readAttenuation port channel
  | .readOutput port => Setting.readOutput port
  | .setOutput port enabled => Setting.setOutput port enabled
  | .readAdjustment port channel adjustment => Setting.readAdjustment port channel adjustment
  | .setFrequency port channel hertz waveform maximum =>
    Setting.setFrequency port channel hertz waveform maximum
  | .setAmplitude port channel volts => Setting.setAmplitude port channel volts
  | .setDutyCycle port channel percent => Setting.setDutyCycle port channel percent
  | .setOffset port channel volts => Setting.setOffset port channel volts
  | .setPhase port channel degrees => Setting.setPhase port channel degrees
  | .selectFunction port function => Counter.selectFunction port function
  | .setGateTime port gateTime => Counter.setGateTime port gateTime
  | .enableCounter port enabled => Counter.enable port enabled
  | .readRegister port => Counter.readRegister port
  | .measure port function => Counter.measure port function
  | .operation generator asked => asked.perform generator
  | .start sampler => Sampler.raising sampler.start
  | .poll sampler listener => Sampler.raising (sampler.poll listener.take)
  | .stop sampler => Sampler.raising sampler.stop

/-- The transactions that belong to a dialogue. A bare one is given by its command; all else uses the
commands of the generator, each with the answer it has to get. -/
def Allows {α : Type} : Dialogue α → Transaction → Prop
  | .order _ command => (· = ⟨command, .acknowledgement⟩)
  | .query _ command => (· = ⟨command, .data⟩)
  | .queryInteger _ command => (· = ⟨command, .integer⟩)
  | _ => fun transaction => ∃ command : Command, transaction = command.transaction

end Dialogue

/-- An operation on a generator sends commands of the generator and nothing else, whatever its
arguments are, and it only reads settings of a channel that there is. -/
theorem Operation.perform_addressed (generator : Generator) (operation : Operation) :
    (operation.perform generator).TakesTurns generator.port (fun transaction =>
      ∃ command : Command, transaction = command.transaction ∧ command.Addressed) := by
  cases operation
  case readWaveform =>
    exact (Generator.onChannel_turns fun known => Setting.readWaveform_turns ⟨_, rfl, known⟩).giving
  case setWaveform =>
    exact (Generator.onChannel_turns fun _ =>
      Setting.setWaveform_turns fun _ => ⟨_, rfl, trivial⟩).giving
  case readAttenuation =>
    exact (Generator.onChannel_turns fun known =>
      Setting.readAttenuation_turns ⟨_, rfl, known⟩).giving
  case readOutput => exact (Setting.readOutput_turns ⟨_, rfl, trivial⟩).giving
  case setOutput => exact (Setting.setOutput_turns ⟨_, rfl, trivial⟩).giving
  case readFrequency =>
    exact (Generator.onChannel_turns fun known =>
      Setting.readFrequency_turns ⟨_, rfl, known⟩).giving
  case setFrequency =>
    exact (Generator.setFrequency_turns (fun known => ⟨_, rfl, known⟩)
      fun _ _ _ _ _ => ⟨_, rfl, trivial⟩).giving
  case readAmplitude =>
    exact (Generator.onChannel_turns fun known =>
      Setting.readAmplitude_turns ⟨_, rfl, known⟩ ⟨_, rfl, known⟩).giving
  case setAmplitude =>
    exact (Generator.onChannel_turns fun known =>
      Setting.setAmplitude_turns ⟨_, rfl, known⟩ fun _ _ _ _ => ⟨_, rfl, trivial⟩).giving
  case readOffset =>
    exact (Generator.onChannel_turns fun known =>
      Setting.readOffset_turns ⟨_, rfl, known⟩ ⟨_, rfl, known⟩ ⟨_, rfl, known⟩).giving
  case setOffset =>
    exact (Generator.onChannel_turns fun known =>
      Setting.setOffset_turns ⟨_, rfl, known⟩ ⟨_, rfl, known⟩
        fun _ _ _ _ => ⟨_, rfl, trivial⟩).giving
  case readPhase =>
    exact (Generator.onChannel_turns fun known => Setting.readPhase_turns ⟨_, rfl, known⟩).giving
  case setPhase =>
    exact (Generator.onChannel_turns fun _ =>
      Setting.setPhase_turns fun _ _ => ⟨_, rfl, trivial⟩).giving
  case readDutyCycle =>
    exact (Generator.onChannel_turns fun known =>
      Setting.readDutyCycle_turns ⟨_, rfl, known⟩).giving
  case setDutyCycle =>
    exact (Generator.onChannel_turns fun _ =>
      Setting.setDutyCycle_turns fun _ _ _ => ⟨_, rfl, trivial⟩).giving
  case readStatus =>
    exact (Generator.onChannel_turns fun known =>
      ChannelStatus.read_turns fun _ => ⟨_, rfl, known⟩).giving
  case selectFunction function =>
    exact (TakesTurns.order ⟨.selectFunction function, rfl, trivial⟩).giving
  case enableCounter enabled =>
    exact (TakesTurns.order ⟨.enableCounter enabled, rfl, trivial⟩).giving
  case setGateTime gateTime =>
    exact (TakesTurns.order ⟨.setGateTime gateTime, rfl, trivial⟩).giving
  case readCounter => exact (TakesTurns.queryInteger ⟨.readCounter, rfl, trivial⟩).giving
  case measure =>
    exact (Counter.measure_turns ⟨_, rfl, trivial⟩ ⟨_, rfl, trivial⟩).giving

theorem Operation.perform_turns (generator : Generator) (operation : Operation) :
    (operation.perform generator).TakesTurns generator.port
      (fun transaction => ∃ command : Command, transaction = command.transaction) :=
  (operation.perform_addressed generator).mono fun _ ⟨command, same, _⟩ => ⟨command, same⟩

theorem Dialogue.program_turns {α : Type} (dialogue : Dialogue α) :
    dialogue.program.TakesTurns dialogue.port dialogue.Allows := by
  cases dialogue
  all_goals simp only [Dialogue.program, Dialogue.port, Dialogue.Allows]
  case order => exact .order rfl
  case query => exact .query rfl
  case queryInteger => exact .queryInteger rfl
  case identify => exact Identity.identify_turns ⟨_, rfl⟩
  case readWaveform => exact Setting.readWaveform_turns ⟨_, rfl⟩
  case setWaveform => exact Setting.setWaveform_turns fun _ => ⟨_, rfl⟩
  case readAttenuation => exact Setting.readAttenuation_turns ⟨_, rfl⟩
  case readOutput => exact Setting.readOutput_turns ⟨_, rfl⟩
  case setOutput => exact Setting.setOutput_turns ⟨_, rfl⟩
  case readAdjustment => exact Setting.readAdjustment_turns (fun _ => ⟨_, rfl⟩) _
  case setFrequency => exact Setting.setFrequency_turns fun _ _ _ => ⟨_, rfl⟩
  case setAmplitude => exact Setting.setAmplitude_turns ⟨_, rfl⟩ fun _ _ _ _ => ⟨_, rfl⟩
  case setDutyCycle => exact Setting.setDutyCycle_turns fun _ _ _ => ⟨_, rfl⟩
  case setOffset => exact Setting.setOffset_turns ⟨_, rfl⟩ ⟨_, rfl⟩ fun _ _ _ _ => ⟨_, rfl⟩
  case setPhase => exact Setting.setPhase_turns fun _ _ => ⟨_, rfl⟩
  case selectFunction => exact .order ⟨_, rfl⟩
  case setGateTime => exact .order ⟨_, rfl⟩
  case enableCounter => exact .order ⟨_, rfl⟩
  case readRegister => exact .queryInteger ⟨.readCounter, rfl⟩
  case measure => exact Counter.measure_turns ⟨_, rfl⟩ ⟨_, rfl⟩
  case operation generator operation => exact operation.perform_turns generator
  case start => exact Sampler.start_turns ⟨_, rfl⟩ ⟨_, rfl⟩
  case poll => exact Sampler.poll_turns _ (fun _ => ⟨_, rfl⟩) ⟨_, rfl⟩
  case stop => exact Sampler.stop_turns ⟨_, rfl⟩

/-- Whatever talks to a generator, with whatever arguments and whatever the port does, makes one
transaction after the other. At most one command is waiting for its reply, nothing follows a call that
failed, and a result is given only when every transaction was answered. -/
theorem Dialogue.one_transaction_at_a_time {α : Type} (dialogue : Dialogue α) {steps : List Step}
    {ending : Outcome α} (run : dialogue.program.Runs steps ending) :
    ∃ complete, InTurn dialogue.port dialogue.Allows (portCalls steps) complete ∧
      (portCalls steps).countP PortCall.isRead ≤ (portCalls steps).countP PortCall.isWrite ∧
      (portCalls steps).countP PortCall.isWrite ≤ (portCalls steps).countP PortCall.isRead + 1 ∧
      (∀ value, ending = .result value → complete = true ∧
        (portCalls steps).countP PortCall.isRead = (portCalls steps).countP PortCall.isWrite) ∧
      ∀ before call after, portCalls steps = before ++ call :: after → call.Failed → after = [] := by
  obtain ⟨complete, turns, failing⟩ := dialogue.program_turns steps ending run
  have count := turns.count_eq
  refine ⟨complete, turns, by omega, by omega, ?_, fun _ _ _ => turns.failed_last⟩
  rintro value rfl
  cases complete with
  | false =>
    obtain ⟨fault, impossible⟩ := failing rfl
    cases impossible
  | true =>
    refine ⟨rfl, ?_⟩
    simp only [Bool.true_eq_false, false_and, or_false] at count
    exact count.symm

/-- A port on a bench that answers with these lines, one after the other. -/
def Bench.answering (lines : List String) : Bench :=
  let reply (line : String) : ReadAnswer := .line (line.toList.map fun c => UInt8.ofNat c.toNat)
  { Bench.empty ⟨0⟩ with ports := #[.prepared (.value "bench") none (lines.map reply) []] }

/-- The second of the three transactions is answered with a frequency instead of an amplitude. -/
theorem Dialogue.one_transaction_at_a_time_offset :
    let generator : Generator := ⟨⟨0, "bench"⟩, ⟨"MHS-25A", .integer 25000000⟩⟩
    let dialogue : Dialogue Reading := .operation generator (.setOffset 1 (.integer 1))
    let fault : Fault := .notEchoed ":r1a" ":r1f100" ":r1a"
    ∃ steps complete, dialogue.program.Runs steps (.fault fault) ∧
      InTurn dialogue.port dialogue.Allows (portCalls steps) complete ∧
      (portCalls steps).countP PortCall.isRead ≤ (portCalls steps).countP PortCall.isWrite := by
  intro generator dialogue fault
  have ended : (dialogue.program.runOn (Bench.answering [":r1y1\r\n", ":r1f100\n"])).1 =
      .fault fault := by decide +kernel
  have run := dialogue.program.runs_runOn (Bench.answering [":r1y1\r\n", ":r1f100\n"])
  rw [ended] at run
  obtain ⟨complete, turns, reads, _⟩ := Dialogue.one_transaction_at_a_time dialogue run
  exact ⟨_, complete, run, turns, reads⟩

end SignalGenerator
