import SignalGenerator.Proofs.Dialogue
import SignalGenerator.Proofs.Encoding
import SignalGenerator.Proofs.Numerals
import SignalGenerator.Proofs.Readings

/-!
Everything a session writes is a line of the protocol with a value in range. The limits are checked on
the value that the user gives, so each bound on a line is a bound on the scaling, the bias and the
rounding in between.
-/

namespace SignalGenerator

open Program (TakesTurns)

/-- The values that may be sent for a letter, up to a highest frequency in hertz. An amplitude may be
ten times as large on an output that is attenuated. -/
inductive InRange (maximum : Nat) (attenuated : Prop) : String → Nat → Prop
  | waveform {n} : n ∈ [0, 1, 2, 3, 4, 100] → InRange maximum attenuated "w" n
  | frequency {n} : n ≤ 100 * maximum → InRange maximum attenuated "f" n
  | amplitude {n} : n ≤ 2000 → InRange maximum attenuated "a" n
  | attenuated {n} : attenuated → n ≤ 20000 → InRange maximum attenuated "a" n
  | dutyCycle {n} : n ≤ 1000 → InRange maximum attenuated "d" n
  | offset {n} : n ≤ 240 → InRange maximum attenuated "o" n
  | phase {n} : n ≤ 359 → InRange maximum attenuated "p" n

/-- The texts for what does not belong to a channel: the model, the register, the output, the counter,
its function and its gate time. -/
def commonTexts : List String :=
  [":r0c", ":r0e", ":r1b", ":s1b0", ":s1b1", ":s6b0", ":s6b1", ":s0m", ":s2m", ":s3m", ":s4m",
    ":s1g0", ":s1g1", ":s1g2", ":s1g3"]

/-- The texts that may be sent for an operation on this channel. -/
inductive LegalText (maximum : Nat) (channel : Option Int) (attenuated : Int → Prop) : String → Prop
  | common {text} : text ∈ commonTexts → LegalText maximum channel attenuated text
  | read {c letter} : channel = some c → c ∈ channels →
      letter ∈ ["w", "y", "f", "a", "d", "o", "p"] →
      LegalText maximum channel attenuated s!":r{c}{letter}"
  | set {c letter numeral n} : channel = some c → c ∈ channels → PlainNumeral numeral n →
      InRange maximum (attenuated c) letter n →
      LegalText maximum channel attenuated s!":s{c}{letter}{numeral}"

/-- A line that may be sent: ASCII, at most 32 bytes, a legal text and one line feed at its end. -/
structure LegalLine (maximum : Nat) (channel : Option Int) (attenuated : Int → Prop)
    (line : List UInt8) : Prop where
  ascii : ∀ byte ∈ line, byte < 128
  short : line.length ≤ Reply.longest
  text : ∃ text body, LegalText maximum channel attenuated text ∧
    body = text.toList.map (fun c => UInt8.ofNat c.toNat) ∧ line = body ++ [10] ∧ 10 ∉ body

theorem InRange.mono {maximum n : Nat} {narrow wide : Prop} {letter : String}
    (inside : InRange maximum narrow letter n) (implies : narrow → wide) :
    InRange maximum wide letter n := by
  cases inside with
  | waveform member => exact .waveform member
  | frequency le => exact .frequency le
  | amplitude le => exact .amplitude le
  | attenuated given le => exact .attenuated (implies given) le
  | dutyCycle le => exact .dutyCycle le
  | offset le => exact .offset le
  | phase le => exact .phase le

theorem InRange.letter_mem {maximum n : Nat} {attenuated : Prop} {letter : String}
    (inside : InRange maximum attenuated letter n) : letter ∈ ["w", "f", "a", "d", "o", "p"] := by
  cases inside <;> decide

theorem InRange.lt {maximum n : Nat} {attenuated : Prop} {letter : String}
    (inside : InRange maximum attenuated letter n) (models : maximum ≤ 99000000) : n < 10 ^ 10 := by
  cases inside with
  | waveform member =>
    have small : ∀ n ∈ [0, 1, 2, 3, 4, 100], n < 10 ^ 10 := by decide
    exact small n member
  | _ => omega

section
variable {maximum : Nat} {channel : Option Int} {attenuated : Int → Prop} {text : String}
  {line : List UInt8}

/-- The line for a short legal text is legal. -/
theorem LegalLine.of_text (legal : LegalText maximum channel attenuated text)
    (short : text.toList.length ≤ 31) (whole : '\n' ∉ text.toList)
    (framed : Exchange.frame text = .ok line) : LegalLine maximum channel attenuated line := by
  obtain ⟨ascii, rfl⟩ := Exchange.of_frame framed
  refine ⟨?_, ?_, text, _, legal, rfl, rfl, ?_⟩
  · intro byte member
    rcases List.mem_append.mp member with inText | last
    · exact byte_lt ascii byte inText
    · cases List.mem_singleton.mp last
      decide
  · rw [List.length_append, List.length_map, Reply.longest]
    exact Nat.add_le_add_right short 1
  · intro feed
    obtain ⟨c, among, same⟩ := List.mem_map.mp feed
    have code := congrArg UInt8.toNat same
    rw [toNat_byte (ascii c among)] at code
    have newline : c = '\n' := by
      rw [← Char.ofNat_toNat c, code]
      rfl
    exact whole (newline ▸ among)

theorem common_line (member : text ∈ commonTexts) (framed : Exchange.frame text = .ok line) :
    LegalLine maximum channel attenuated line := by
  have all : ∀ text ∈ commonTexts, text.toList.length ≤ 31 ∧ '\n' ∉ text.toList := by decide
  exact .of_text (.common member) (all text member).1 (all text member).2 framed

theorem Register.letter_mem (register : Register) :
    register.letter ∈ ["w", "y", "f", "a", "d", "o", "p"] := by
  cases register <;> decide

variable {c : Int}

theorem read_line {register : Register} (same : channel = some c) (known : c ∈ channels)
    (framed : Exchange.frame (Command.read c register).text = .ok line) :
    LegalLine maximum channel attenuated line := by
  have all : ∀ c ∈ channels, ∀ letter ∈ ["w", "y", "f", "a", "d", "o", "p"],
      (s!":r{c}{letter}").toList.length ≤ 31 ∧ '\n' ∉ (s!":r{c}{letter}").toList := by
    decide
  have neat := all c known _ register.letter_mem
  exact .of_text (.read same known register.letter_mem) neat.1 neat.2 framed

/-- A value in range has ten digits at most, so its line is short. -/
theorem set_line {register : Register} {n : Nat} (models : maximum ≤ 99000000) (same : channel = some c)
    (known : c ∈ channels) (inside : InRange maximum (attenuated c) register.letter n)
    (framed : Exchange.frame (Command.set c register n).text = .ok line) :
    LegalLine maximum channel attenuated line := by
  have all : ∀ c ∈ channels, ∀ letter ∈ ["w", "f", "a", "d", "o", "p"],
      (s!":s{c}{letter}").toList.length = 4 ∧ '\n' ∉ (s!":s{c}{letter}").toList := by
    decide
  have front := all c known _ inside.letter_mem
  have parts : (s!":s{c}{register.letter}{toString n}").toList =
      (s!":s{c}{register.letter}").toList ++ (toString n).toList :=
    String.toList_append
  have digits := length_toString_le (by decide) (inside.lt models)
  have numeral := plainNumeral_toString n
  refine .of_text (.set same known numeral inside) ?_ ?_ framed
  · rw [parts, List.length_append, front.1]
    omega
  · rw [parts, List.mem_append]
    rintro (member | member)
    · exact front.2 member
    · exact absurd (numeral.digits _ member) (by decide)

end

/-- The channel that an operation is for. -/
def Operation.channel? : Operation → Option Int
  | .readWaveform channel | .setWaveform channel _ | .readAttenuation channel | .readFrequency channel
  | .setFrequency channel _ | .readAmplitude channel | .setAmplitude channel _ | .readOffset channel
  | .setOffset channel _ | .readPhase channel | .setPhase channel _ | .readDutyCycle channel
  | .setDutyCycle channel _ | .readStatus channel => some channel
  | _ => none

/-- A transaction whose line is legal, whatever comes before it. -/
def Keeps (maximum : Nat) (channel : Option Int) (transaction : Transaction) : Prop :=
  ∀ attenuated line, Exchange.frame transaction.command = .ok line →
    LegalLine maximum channel attenuated line

section
variable {maximum : Nat} {channel : Option Int} {c : Int}

theorem keeps_common (command : Command) (member : command.text ∈ commonTexts) :
    Keeps maximum channel command.transaction := fun _ _ framed => common_line member framed

theorem keeps_read (known : c ∈ channels) (register : Register) :
    Keeps maximum (some c) (Command.read c register).transaction :=
  fun _ _ framed => read_line rfl known framed

theorem keeps_set {register : Register} {raw : Int} (models : maximum ≤ 99000000) (known : c ∈ channels)
    (inside : ∃ n : Nat, raw = n ∧ InRange maximum False register.letter n) :
    Keeps maximum (some c) (Command.set c register raw).transaction := by
  obtain ⟨n, rfl, within⟩ := inside
  exact fun _ _ framed => set_line models rfl known (within.mono False.elim) framed

theorem setWaveform_inRange {waveform : Waveform} (known : waveform ≠ .unknown) :
    InRange maximum False Register.waveform.letter waveform.id := by
  refine .waveform ?_
  cases waveform <;> first | decide | contradiction

variable {generator : Generator} (model : generator.identity.maxFrequency = .integer maximum)
  (models : maximum ≤ 99000000)

include model models in
/-- All operations but the one on the amplitude keep to the limits of the protocol, whatever was read
before. -/
theorem Operation.legal_turns (operation : Operation)
    (other : ∀ channel volts, operation ≠ .setAmplitude channel volts) :
    (operation.perform generator).TakesTurns generator.port (Keeps maximum operation.channel?) := by
  cases operation
  case readWaveform =>
    exact (Generator.onChannel_turns fun known =>
      Setting.readWaveform_turns (keeps_read known _)).giving
  case setWaveform =>
    exact (Generator.onChannel_turns fun known => Setting.setWaveform_turns fun named =>
      keeps_set models known ⟨_, rfl, setWaveform_inRange named⟩).giving
  case readAttenuation =>
    exact (Generator.onChannel_turns fun known =>
      Setting.readAttenuation_turns (keeps_read known _)).giving
  case readOutput => exact (Setting.readOutput_turns (keeps_common _ (by decide))).giving
  case setOutput enabled =>
    exact (Setting.setOutput_turns (keeps_common _ (by cases enabled <;> decide))).giving
  case readFrequency =>
    exact (Generator.onChannel_turns fun known =>
      Setting.readFrequency_turns (keeps_read known _)).giving
  case setFrequency =>
    refine (Generator.setFrequency_turns (fun known => keeps_read known _) ?_).giving
    intro known waveform raw passed encoded
    rw [model] at passed
    obtain ⟨n, scaled, le⟩ :=
      Scaling.encodeFrequency_within (Limits.frequency_between known passed) (by omega)
    exact keeps_set models known ⟨n, Except.ok.inj (encoded.symm.trans scaled), .frequency le⟩
  case readAmplitude =>
    exact (Generator.onChannel_turns fun known =>
      Setting.readAmplitude_turns (keeps_read known _) (keeps_read known _)).giving
  case setAmplitude channel volts => exact absurd rfl (other channel volts)
  case readOffset =>
    exact (Generator.onChannel_turns fun known => Setting.readOffset_turns (keeps_read known _)
      (keeps_read known _) (keeps_read known _)).giving
  case setOffset =>
    refine (Generator.onChannel_turns fun known => Setting.setOffset_turns (keeps_read known _)
      (keeps_read known _) ?_).giving
    intro percent raw passed encoded
    obtain ⟨n, scaled, le⟩ :=
      Scaling.encodeOffsetPercent_within (Limits.offsetPercent_between passed)
    exact keeps_set models known ⟨n, Except.ok.inj (encoded.symm.trans scaled), .offset le⟩
  case readPhase =>
    exact (Generator.onChannel_turns fun known => Setting.readPhase_turns (keeps_read known _)).giving
  case setPhase =>
    refine (Generator.onChannel_turns fun known => Setting.setPhase_turns ?_).giving
    intro raw encoded
    obtain ⟨n, whole, le⟩ := Scaling.encodePhase_range encoded
    exact keeps_set models known ⟨n, whole, .phase le⟩
  case readDutyCycle =>
    exact (Generator.onChannel_turns fun known =>
      Setting.readDutyCycle_turns (keeps_read known _)).giving
  case setDutyCycle =>
    refine (Generator.onChannel_turns fun known => Setting.setDutyCycle_turns ?_).giving
    intro raw passed encoded
    obtain ⟨n, scaled, le⟩ := Scaling.encodeDutyCycle_within (Limits.dutyCycle_between passed)
    exact keeps_set models known ⟨n, Except.ok.inj (encoded.symm.trans scaled), .dutyCycle le⟩
  case readStatus =>
    exact (Generator.onChannel_turns fun known =>
      ChannelStatus.read_turns fun register => keeps_read known register).giving
  case selectFunction function =>
    exact (TakesTurns.order (keeps_common (.selectFunction function)
      (by cases function <;> decide))).giving
  case enableCounter enabled =>
    exact (TakesTurns.order (keeps_common (.enableCounter enabled)
      (by cases enabled <;> decide))).giving
  case setGateTime gateTime =>
    exact (TakesTurns.order (keeps_common (.setGateTime gateTime)
      (by cases gateTime <;> decide))).giving
  case readCounter =>
    exact (TakesTurns.queryInteger (keeps_common .readCounter (by decide))).giving
  case measure function =>
    exact (Counter.measure_turns (keeps_common _ (by cases function <;> decide))
      (keeps_common _ (by decide))).giving

/-- The calls end with an exchange in which an attenuation of -20 dB was read from the channel. -/
def JustAttenuated (port : Port) (before : List PortCall) (channel : Int) : Prop :=
  ∃ earlier exchange, before = earlier ++ exchange ∧
    Exchanged port (.read channel .attenuation) 0 exchange

/-- Every line that is written is legal after the calls before it, and it is written on this port. -/
def LegalCalls (maximum : Nat) (channel : Option Int) (port : Port) (calls : List PortCall) : Prop :=
  ∀ before target line answer after, calls = before ++ .wrote target line answer :: after →
    target = port ∧ LegalLine maximum channel (JustAttenuated port before) line

theorem LegalCalls.nil {port : Port} : LegalCalls maximum channel port [] := by
  intro before target line answer after split
  simp at split

theorem LegalCalls.append {port : Port} {first rest : List PortCall}
    (legal : LegalCalls maximum channel port first)
    (later : ∀ before target line answer after, rest = before ++ .wrote target line answer :: after →
      target = port ∧ LegalLine maximum channel (JustAttenuated port (first ++ before)) line) :
    LegalCalls maximum channel port (first ++ rest) := by
  intro before target line answer after split
  rcases List.append_eq_append_iff.mp split with ⟨between, rfl, inRest⟩ | ⟨between, rfl, inFirst⟩
  · exact later between target line answer after inRest
  · cases between with
    | nil =>
      have found := later [] target line answer after inFirst.symm
      rwa [List.append_nil, List.append_nil] at found
    | cons call between =>
      obtain ⟨rfl, _⟩ := List.cons.inj inFirst
      exact legal before target line answer between rfl

theorem InTurn.legal {port : Port} {calls : List PortCall} {complete : Bool}
    (turns : InTurn port (Keeps maximum channel) calls complete) :
    LegalCalls maximum channel port calls := by
  intro before target line answer after split
  have member : PortCall.wrote target line answer ∈ calls := split ▸ List.mem_append_cons_self
  obtain ⟨same, transaction, keeps, framed⟩ := turns.written member
  exact ⟨same, keeps _ line framed⟩

theorem ofId?_minusTwenty {n : Int} (known : Attenuation.ofId? n = some .minusTwenty) : n = 0 := by
  unfold Attenuation.ofId? at known
  split at known
  · assumption
  split at known
  · cases known
  · cases known

/-- An amplitude is scaled for the attenuation that was read just before, and so is its bound. -/
theorem Setting.setAmplitude_legal {port : Port} {volts : Number} {steps : List Step}
    {ending : Outcome Unit} (models : maximum ≤ 99000000) (known : c ∈ channels)
    (run : (Setting.setAmplitude port c volts).Runs steps ending) :
    LegalCalls maximum (some c) port (portCalls steps) := by
  have reads : (readAttenuation port c).TakesTurns port (Keeps maximum (some c)) :=
    readAttenuation_turns (keeps_read known _)
  rcases run.of_ofArithmetic_bind with ⟨errors, found, run⟩ | ⟨_, _, rfl, _⟩
  · rcases run.of_ofExcept_bind with ⟨_, checked, run⟩ | ⟨_, _, rfl, _⟩
    · have between := Limits.amplitude_between (Limits.check_eq_ok checked ▸ found)
      rcases run.of_bind with ⟨attenuation, first, rest, rfl, asked, run⟩ | ⟨_, failed, _⟩ | ⟨stuck, _⟩
      · obtain ⟨n, exchanged, decoded⟩ := readAttenuation_result known asked
        obtain ⟨_, turns, _⟩ := reads _ _ asked
        rcases run.of_ofArithmetic_bind with ⟨raw, encoded, run⟩ | ⟨_, _, rfl, _⟩
        · rw [portCalls_append]
          refine turns.legal.append fun before target line answer after split => ?_
          obtain ⟨rfl, same, framed⟩ := (Exchange.order_runs run).written split
          obtain ⟨amplitude, scaled, le⟩ := Scaling.encodeAmplitude_within between attenuation
          cases Except.ok.inj (encoded.symm.trans scaled)
          refine ⟨same, set_line models rfl known ?_ framed⟩
          cases attenuation with
          | zero => exact .amplitude le
          | minusTwenty =>
            cases ofId?_minusTwenty decoded
            exact .attenuated ⟨[], _, List.append_nil _, exchanged⟩ le
        · rw [List.append_nil]
          exact turns.legal
      · obtain ⟨_, turns, _⟩ := reads _ _ failed
        exact turns.legal
      · obtain ⟨_, turns, _⟩ := reads _ _ stuck
        exact turns.legal
    · exact .nil
  · exact .nil

end

/-- What is done with a generator and with the samplers of its counter. -/
inductive Act
  | identify
  | operate (operation : Operation)
  | start (sampler : Sampler)
  | poll (sampler : Sampler) (listener : Listener)
  | stop (sampler : Sampler)

/-- The channel that an act is for. -/
def Act.channel? : Act → Option Int
  | .operate operation => operation.channel?
  | _ => none

/-- The executions of an act. A sampler belongs to the generator and may be in any state. -/
inductive Act.Runs (generator : Generator) : Act → List Step → Prop
  | operate {operation steps ending} : (operation.perform generator).Runs steps ending →
      Runs generator (.operate operation) steps
  | start {sampler steps ending} : sampler.generator = generator →
      (Sampler.raising sampler.start).Runs steps ending → Runs generator (.start sampler) steps
  | poll {sampler listener steps ending} : sampler.generator = generator →
      (Sampler.raising (sampler.poll listener.take)).Runs steps ending →
      Runs generator (.poll sampler listener) steps
  | stop {sampler steps ending} : sampler.generator = generator →
      (Sampler.raising sampler.stop).Runs steps ending → Runs generator (.stop sampler) steps

/-- A generator is identified on a port, and then there are acts on it in any order, each with the
calls that it made. -/
inductive Session (port : Port) : Identity → List (Act × List PortCall) → Prop
  | identified {identity steps} : (Identity.identify port).Runs steps (.result identity) →
      Session port identity [(.identify, portCalls steps)]
  | acted {identity history act steps} : Session port identity history →
      Act.Runs ⟨port, identity⟩ act steps →
      Session port identity (history ++ [(act, portCalls steps)])

theorem Program.TakesTurns.legal {α : Type} {port : Port} {maximum : Nat} {channel : Option Int}
    {program : Program α} {steps : List Step} {ending : Outcome α}
    (turns : program.TakesTurns port (Keeps maximum channel)) (run : program.Runs steps ending) :
    LegalCalls maximum channel port (portCalls steps) := by
  obtain ⟨_, made, _⟩ := turns _ _ run
  exact made.legal

theorem Identity.identify_legal {maximum : Nat} {port : Port} {steps : List Step}
    {ending : Outcome Identity} (run : (identify port).Runs steps ending) :
    LegalCalls maximum none port (portCalls steps) :=
  TakesTurns.legal (identify_turns (keeps_common _ (by decide))) run

/-- The identity of a generator has a highest frequency below a hundred megahertz. -/
theorem Identity.identify_maxFrequency {port : Port} {steps : List Step} {identity : Identity}
    (run : (identify port).Runs steps (.result identity)) :
    ∃ megahertz ≤ 99, identity.maxFrequency = .integer ((megahertz : Nat) * 1000000) := by
  obtain ⟨reply, first, rest, rfl, asked, judged⟩ := run.of_bind_result
  have ended := Exchange.query_runs asked
  generalize portCalls first = calls at ended
  cases ended with
  | answered _ given =>
    have ascii := Reply.ascii_of_ofLine given.1
    cases found : ofReply reply with
    | ok named =>
      rw [found] at judged
      cases (Program.Runs.of_result judged).2
      exact maxFrequency_of_reply ascii found
    | error fault =>
      rw [found] at judged
      cases (Program.Runs.of_fail judged).2

theorem Identity.identify_maximum {port : Port} {steps : List Step} {identity : Identity}
    (run : (identify port).Runs steps (.result identity)) :
    ∃ maximum : Nat, maximum ≤ 99000000 ∧ identity.maxFrequency = .integer maximum := by
  obtain ⟨megahertz, le, model⟩ := identify_maxFrequency run
  exact ⟨megahertz * 1000000, by omega, by exact_mod_cast model⟩

/-- A generator on a bench that names its model, one of 25 MHz. -/
theorem Identity.identify_bench :
    ∃ steps, (identify ⟨0, "bench"⟩).Runs steps (.result ⟨"MHS-25A00", .integer 25000000⟩) := by
  have run := (identify ⟨0, "bench"⟩).runs_runOn (Bench.answering [":r0c5225A000\r\n"])
  have named : ((identify ⟨0, "bench"⟩).runOn (Bench.answering [":r0c5225A000\r\n"])).1 =
      .result ⟨"MHS-25A00", .integer 25000000⟩ := by decide
  rw [named] at run
  exact ⟨_, run⟩

theorem Operation.setAmplitude_legal {generator : Generator} {maximum : Nat} {channel : Int}
    {volts : Number} {steps : List Step} {ending : Outcome Reading} (models : maximum ≤ 99000000)
    (run : ((Operation.setAmplitude channel volts).perform generator).Runs steps ending) :
    LegalCalls maximum (some channel) generator.port (portCalls steps) := by
  have inner : ∃ ending, (generator.setAmplitude channel volts).Runs steps ending := by
    rcases giving_runs run with ⟨_, run, _⟩ | ⟨_, run, _⟩ | ⟨run, _⟩
    · exact ⟨_, run⟩
    · exact ⟨_, run⟩
    · exact ⟨_, run⟩
  obtain ⟨ending, run⟩ := inner
  rcases Generator.onChannel_runs run with ⟨known, run⟩ | ⟨_, rfl, _⟩
  · exact Setting.setAmplitude_legal models known run
  · exact .nil

/-- One act keeps to the limits of the protocol. -/
theorem Act.Runs.legal {generator : Generator} {maximum : Nat} {act : Act} {steps : List Step}
    (model : generator.identity.maxFrequency = .integer maximum) (models : maximum ≤ 99000000)
    (run : Act.Runs generator act steps) :
    LegalCalls maximum act.channel? generator.port (portCalls steps) := by
  cases run with
  | @operate operation _ ending run =>
    by_cases amplitude : ∃ channel volts, operation = .setAmplitude channel volts
    · obtain ⟨channel, volts, rfl⟩ := amplitude
      exact Operation.setAmplitude_legal models run
    · have other : ∀ channel volts, operation ≠ .setAmplitude channel volts :=
        fun channel volts same => amplitude ⟨channel, volts, same⟩
      exact (operation.legal_turns model models other).legal run
  | start own run =>
    subst own
    exact TakesTurns.legal (Sampler.start_turns (keeps_common _ (by decide))
      (keeps_common _ (by decide))) run
  | poll own run =>
    subst own
    refine TakesTurns.legal (Sampler.poll_turns _ (fun function => keeps_common _ ?_)
      (keeps_common _ (by decide))) run
    cases function <;> decide
  | stop own run =>
    subst own
    exact TakesTurns.legal (Sampler.stop_turns (keeps_common _ (by decide))) run

/-- Everything that is written in a session is a legal line: whatever the arguments are, whatever the
port does, and in whatever order the operations come. -/
theorem Session.lines_legal {port : Port} {identity : Identity} {history : List (Act × List PortCall)}
    (session : Session port identity history) :
    ∃ megahertz ≤ 99, identity.maxFrequency = .integer ((megahertz : Nat) * 1000000) ∧
      ∀ act calls, (act, calls) ∈ history →
        LegalCalls (megahertz * 1000000) act.channel? port calls := by
  induction session with
  | identified run =>
    obtain ⟨megahertz, le, model⟩ := Identity.identify_maxFrequency run
    refine ⟨megahertz, le, model, fun act calls member => ?_⟩
    cases List.mem_singleton.mp member
    exact Identity.identify_legal run
  | acted _ run ih =>
    obtain ⟨megahertz, le, model, before⟩ := ih
    refine ⟨megahertz, le, model, fun act calls member => ?_⟩
    rcases List.mem_append.mp member with earlier | last
    · exact before act calls earlier
    · cases List.mem_singleton.mp last
      exact run.legal (by exact_mod_cast model) (by omega)

/-- On an attenuated output 20 V are twenty thousand thousandths of a volt. -/
theorem Session.lines_legal_attenuated :
    let port : Port := ⟨0, "bench"⟩
    let act : Act := .operate (.setAmplitude 2 (.integer 20))
    let line := ":s2a20000\n".toList.map fun c => UInt8.ofNat c.toNat
    ∃ identity first calls, Session port identity [(.identify, first), (act, calls)] ∧
      PortCall.wrote port line (.ok 10) ∈ calls ∧
      ∃ megahertz ≤ 99, identity.maxFrequency = .integer ((megahertz : Nat) * 1000000) ∧
        LegalCalls (megahertz * 1000000) (some 2) port calls := by
  intro port act line
  let identity : Identity := ⟨"MHS-25A00", .integer 25000000⟩
  let setting := Bench.answering [":r2y0\r\n", "ok\n"]
  let program := (Operation.setAmplitude 2 (.integer 20)).perform ⟨port, identity⟩
  obtain ⟨_, identified⟩ := Identity.identify_bench
  have session := Session.acted (.identified identified) (.operate (program.runs_runOn setting))
  have written : PortCall.wrote port line (.ok 10) ∈ portCalls (program.stepsOn setting) := by
    decide +kernel
  obtain ⟨megahertz, le, model, legal⟩ := Session.lines_legal session
  exact ⟨identity, _, _, session, written, megahertz, le, model, legal act _ (by simp [act])⟩

end SignalGenerator
