import SignalGenerator.Proofs.Attainable
import SignalGenerator.Proofs.Plan
import SignalGenerator.Proofs.Refinement

/-!
Settings that are read and made again in a session. The setting is accepted, it sends the number that
its register already holds, and nothing changes. Only an offset at the end of its range can be rounded
past its limit, and then it is refused.
-/

namespace SignalGenerator

open Number (Between Fits)

/-- The lines that are written to a port are those of these commands, one after the other. -/
def WritesExactly (port : Port) (commands : List Command) (calls : List PortCall) : Prop :=
  List.Forall₂ (fun command line => Exchange.frame (command : Command).text = .ok line) commands
    (linesOn port calls)

section
variable {port : Port} {channel : Int} {command : Command} {calls rest : List PortCall}

theorem WritesExactly.append {first second : List Command} (early : WritesExactly port first calls)
    (late : WritesExactly port second rest) : WritesExactly port (first ++ second) (calls ++ rest) := by
  unfold WritesExactly
  rw [linesOn_append]
  exact List.rel_append early late

theorem Transaction.Makes.writes {expects : Expectation} {accepted : Option (List UInt8)}
    (made : Transaction.Makes ⟨command.text, expects⟩ port calls accepted) :
    WritesExactly port [command] calls := by
  obtain ⟨⟨line, lines, framed⟩, _⟩ := made.linesOn
  unfold WritesExactly
  rw [lines]
  exact .cons framed .nil

theorem Exchanged.writes {n : Int} (exchanged : Exchanged port command n calls) :
    WritesExactly port [command] calls := by
  obtain ⟨_, _, made⟩ := exchanged.makes
  exact made.writes

theorem AttenuationRead.writes {attenuation : Attenuation}
    (read : AttenuationRead port channel attenuation calls) :
    WritesExactly port [.read channel .attenuation] calls := by
  obtain ⟨_, exchanged, _⟩ := read
  exact exchanged.writes

theorem AmplitudeRead.writes {amplitude : Binary64} (read : AmplitudeRead port channel amplitude calls) :
    WritesExactly port [.read channel .attenuation, .read channel .amplitude] calls := by
  cases read with
  | scaled switched exchanged _ => exact switched.writes.append exchanged.writes

theorem Command.Sent.writes {ending : Outcome Reading} (sent : command.Sent port calls ending) :
    WritesExactly port [command] calls := by
  cases sent with
  | unacknowledged made => exact made.writes
  | acknowledged made => exact made.writes

end

theorem not_invalid_done : ¬ Invalid (.result Reading.done) := by
  rintro ⟨_, ended, _⟩
  cases ended

/-- A setting that was made has read what it depends on, and has then sent the number that the registers
allow for it. -/
theorem Operation.Carried.writes {port : Port} {device last : Device} {file : RegisterFile}
    {maximum : Nat} {adjustment : Adjustment} {channel n : Int} {value : Number}
    {calls : List PortCall} (known : channel ∈ channels)
    (carried : (adjustment.setting channel value).Carried port maximum calls (.result .done))
    (stores : file.Stores maximum (adjustment.setting channel value)
      (.register channel adjustment.register) n)
    (rests : device.Rests file) (served : device.Served port calls last) :
    WritesExactly port (adjustment.asks channel ++ [.set channel adjustment.register n]) calls := by
  cases adjustment with
  | frequency =>
    cases carried with
    | frequencyRefused _ _ _ invalid => exact absurd invalid not_invalid_done
    | frequency asked _ encoded sent =>
      cases stores with | frequency _ again
      cases Except.ok.inj (encoded.symm.trans again)
      exact asked.writes.append sent.writes
  | amplitude =>
    cases carried with | amplitude read encoded sent
    cases stores with | amplitude _ again
    obtain ⟨_, early, _⟩ := served.append
    obtain ⟨rfl, _⟩ := early.attenuationRead known read rests
    cases Except.ok.inj (encoded.symm.trans again)
    exact read.writes.append sent.writes
  | offset =>
    cases carried with
    | offsetRefused _ _ invalid => exact absurd invalid not_invalid_done
    | offset read share encoded sent =>
      cases stores with | offset _ foundAgain shareAgain again
      obtain ⟨_, early, _⟩ := served.append
      obtain ⟨found, _⟩ := early.amplitudeRead known read rests
      cases Except.ok.inj (found.symm.trans foundAgain)
      cases share.unique shareAgain
      cases Except.ok.inj (encoded.symm.trans again)
      exact read.writes.append sent.writes
  | phase =>
    cases carried with | phase encoded sent
    cases stores with | phase again
    cases Except.ok.inj (encoded.symm.trans again)
    exact sent.writes
  | dutyCycle =>
    cases carried with | dutyCycle encoded sent
    cases stores with | dutyCycle _ again
    cases Except.ok.inj (encoded.symm.trans again)
    exact sent.writes

/-- An offset that no share of the amplitude stands for is only asked the amplitude for. -/
theorem Operation.Carried.writes_refused {port : Port} {device last : Device} {file : RegisterFile}
    {maximum : Nat} {channel : Int} {volts : Number} {amplitude : Binary64} {calls : List PortCall}
    {ending : Outcome Reading} (known : channel ∈ channels)
    (carried : (Operation.setOffset channel volts).Carried port maximum calls ending)
    (found : file.amplitude channel = .ok amplitude) (none : ∀ share, ¬ OffsetShare volts amplitude share)
    (rests : device.Rests file) (served : device.Served port calls last) :
    WritesExactly port (Adjustment.offset.asks channel) calls := by
  cases carried with
  | offsetUnread unread => exact absurd served (Device.Served.amplitudeUnread known unread rests)
  | offsetRefused read _ _ => exact read.writes
  | offset read share _ _ =>
    obtain ⟨_, early, _⟩ := served.append
    obtain ⟨again, _⟩ := early.amplitudeRead known read rests
    cases Except.ok.inj (found.symm.trans again)
    exact absurd share (none _)

/-- Registers that hold the same for both channels, with the output off. -/
def RegisterFile.alike (value : Register → Int)
    (short : ∀ register, (toString (value register)).toList.length ≤ Cell.room)
    (switched : value .attenuation = 0 ∨ value .attenuation = 1) : RegisterFile where
  value
    | .register _ register => value register
    | .output => 0
  short := by
    rintro (⟨_, register⟩ | _)
    · exact short register
    · exact (by decide : (toString (0 : Int)).toList.length ≤ Cell.room)
  switched _ := switched

namespace Desk

/-- A desk with a generator that holds these registers and acknowledges with a word. -/
def holding (file : RegisterFile) : Desk :=
  ⟨⟨0, "bench"⟩, ⟨file, [], fun _ => ⟨true, [13, 10], by simp⟩⟩, Bench.empty ⟨0⟩⟩

/-- What an operation comes to on a desk, and the desk after it. -/
def perform (generator : Generator) (operation : Operation) (desk : Desk) : Outcome Reading × Desk :=
  (operation.perform generator).runIn Desk.answer desk

/-- The calls on ports that an operation makes on a desk. -/
def calls (generator : Generator) (operation : Operation) (desk : Desk) : List PortCall :=
  portCalls ((operation.perform generator).stepsIn Desk.answer desk)

variable {generator : Generator} {maximum : Nat} {desk : Desk} {adjustment : Adjustment} {channel : Int}

theorem exists_after {operation : Operation} {ending : Outcome Reading}
    (ended : (desk.perform generator operation).1 = ending) :
    ∃ after, desk.perform generator operation = (ending, after) := ⟨_, Prod.ext ended rfl⟩

/-- A setting is made with this value, it sends the number that its register holds already, and nothing
changes. -/
def Rewrites (generator : Generator) (adjustment : Adjustment) (channel : Int) (value : Binary64)
    (desk : Desk) : Prop :=
  ∃ after, desk.perform generator (adjustment.setting channel (.real value)) = (.result .done, after) ∧
    after.device.file = desk.device.file ∧
    WritesExactly generator.port
      (adjustment.asks channel ++ [.set channel adjustment.register
        (desk.device.file.value (.register channel adjustment.register))])
      (desk.calls generator (adjustment.setting channel (.real value)))

/-- An offset is refused after the amplitude was read, and nothing changes. -/
def RefusesOffset (generator : Generator) (channel : Int) (volts : Binary64) (desk : Desk) : Prop :=
  ∃ ending after, desk.perform generator (.setOffset channel (.real volts)) = (ending, after) ∧
    Invalid ending ∧ after.device.file = desk.device.file ∧
    WritesExactly generator.port (Adjustment.offset.asks channel)
      (desk.calls generator (.setOffset channel (.real volts)))

theorem RefusesOffset.not_rewrites {volts : Binary64} (refuses : desk.RefusesOffset generator channel volts) :
    ¬ desk.Rewrites generator .offset channel volts := by
  rintro ⟨_, done, _⟩
  obtain ⟨_, _, ended, invalid, _⟩ := refuses
  cases ended.symm.trans done
  exact not_invalid_done invalid

section
variable (model : generator.identity.maxFrequency = .integer maximum) (models : maximum ≤ 99000000)
  (attached : desk.port = generator.port) (idle : desk.device.waiting = []) (known : channel ∈ channels)

include attached idle known in
/-- Every setting can be read on a desk, and reading changes nothing. -/
theorem perform_reading : ∃ reading after,
    desk.perform generator (adjustment.reading channel) = (.result reading, after) ∧
      desk.device.file.Shows (adjustment.reading channel) reading ∧
      after.device.Rests desk.device.file ∧ after.port = generator.port := by
  have run := ((adjustment.reading channel).perform generator).runs_runIn Desk.answer desk
  have served := desk.served_stepsIn ((adjustment.reading channel).perform generator)
  have same := desk.runIn_port ((adjustment.reading channel).perform generator)
  rw [attached] at served same
  have panel : (adjustment.reading channel).OnPanel := by cases adjustment <;> trivial
  have reads : (adjustment.reading channel).readBack? = none := by cases adjustment <;> rfl
  obtain ⟨reading, ended, shows, resting⟩ :=
    Operation.perform_shows (Adjustment.reading_known known) panel reads ⟨rfl, idle⟩ run served
  exact ⟨reading, _, Prod.ext ended rfl, shows, resting, same⟩

include model models attached idle known in
/-- A setting that the registers allow is made on a desk with the commands that it takes. -/
theorem perform_setting {value : Binary64} {n : Int}
    (stores : desk.device.file.Stores maximum (adjustment.setting channel (.real value))
      (.register channel adjustment.register) n) : ∃ after,
    desk.perform generator (adjustment.setting channel (.real value)) = (.result .done, after) ∧
      after.device.file.value =
        Function.update desk.device.file.value (.register channel adjustment.register) n ∧
      WritesExactly generator.port (adjustment.asks channel ++ [.set channel adjustment.register n])
        (desk.calls generator (adjustment.setting channel (.real value))) := by
  have run := ((adjustment.setting channel (.real value)).perform generator).runs_runIn Desk.answer desk
  have served := desk.served_stepsIn ((adjustment.setting channel (.real value)).perform generator)
  rw [attached] at served
  have present := @Adjustment.setting_known adjustment channel (.real value) known
  rcases Operation.perform_known model models present Adjustment.setting_fits Adjustment.setting_sets run with
    ⟨fit, carried⟩ | ⟨unfit, _⟩
  · obtain ⟨after, resting, follows⟩ := carried.follows present fit models ⟨rfl, idle⟩ served
    obtain ⟨done, changed⟩ := follows.of_stores present stores
    rw [done] at carried
    refine ⟨_, Prod.ext done rfl, ?_, carried.writes known stores ⟨rfl, idle⟩ served⟩
    exact (congrArg RegisterFile.value resting.file).trans changed
  · exact absurd unfit (stores.fit present)

include model models attached idle known in
theorem rewrites_of_stores {value : Binary64}
    (stores : desk.device.file.Stores maximum (adjustment.setting channel (.real value))
      (.register channel adjustment.register)
      (desk.device.file.value (.register channel adjustment.register))) :
    desk.Rewrites generator adjustment channel value := by
  obtain ⟨after, done, changed, writes⟩ := perform_setting model models attached idle known stores
  rw [Function.update_eq_self] at changed
  exact ⟨after, done, RegisterFile.eq_of_value changed, writes⟩

include model models attached idle known in
/-- An offset without a share of the amplitude is refused on a desk, after the amplitude was read. -/
theorem refuses_of_no_share {volts amplitude : Binary64} (finite : (Number.real volts).Finite)
    (found : desk.device.file.amplitude channel = .ok amplitude)
    (none : ∀ share, ¬ OffsetShare volts amplitude share) : desk.RefusesOffset generator channel volts := by
  have run := ((Operation.setOffset channel volts).perform generator).runs_runIn Desk.answer desk
  have served := desk.served_stepsIn ((Operation.setOffset channel volts).perform generator)
  rw [attached] at served
  have rests : desk.device.Rests desk.device.file := ⟨rfl, idle⟩
  have present := @Adjustment.setting_known .offset channel (.real volts) known
  have fits := @Adjustment.setting_fits .offset channel volts
  have stores : ∀ cell n, ¬ desk.device.file.Stores maximum (.setOffset channel volts) cell n := by
    rintro _ _ (_ | _ | _ | _ | ⟨_, again, share, _⟩)
    cases Except.ok.inj (found.symm.trans again)
    exact none _ share
  rcases Operation.perform_known model models present fits rfl run with ⟨fit, carried⟩ | ⟨unfit, _⟩
  · obtain ⟨after, resting, follows⟩ := carried.follows present fit models rests served
    obtain ⟨invalid, same⟩ := follows.of_refused present rfl stores
    exact ⟨_, _, rfl, invalid, resting.file.trans same, carried.writes_refused known found none rests served⟩
  · exact absurd finite unfit

end

/-- What was read may be set again. Every number of up to 48 bits is read as a value that is encoded to
it, and where a register holds what its setting may put there, the value that is read is accepted, the
same number is sent, and nothing changes. -/
theorem writes_back {port : Port} {identity : Identity} {early : List Step}
    (identified : (Identity.identify port).Runs early (.result identity))
    (attached : desk.port = port) (idle : desk.device.waiting = []) (known : channel ∈ channels)
    (attainable : desk.device.file.Attainable identity.maxFrequency channel adjustment) :
    (∀ raw : Int, raw.natAbs ≤ 2 ^ 48 → Scaling.Recodes raw) ∧
      ∃ value between,
        desk.perform ⟨port, identity⟩ (adjustment.reading channel) = (.result (.value value), between) ∧
        between.device.file = desk.device.file ∧
        between.Rewrites ⟨port, identity⟩ adjustment channel value := by
  refine ⟨fun raw bits => Scaling.recodes bits, ?_⟩
  obtain ⟨maximum, models, model⟩ := Identity.identify_maximum identified
  obtain ⟨reading, between, read, shows, resting, same⟩ :=
    @perform_reading ⟨port, identity⟩ desk adjustment channel attached idle known
  rw [model] at attainable
  obtain ⟨value, rfl, stores⟩ := attainable.stores known models shows
  refine ⟨value, between, read, resting.file, ?_⟩
  rw [← resting.file] at stores
  exact rewrites_of_stores model models same resting.idle known stores

/-- The highest frequency of the square is set again. -/
theorem writes_back_square :
    let generator : Generator := ⟨⟨0, "bench"⟩, ⟨"MHS-25A00", .integer 25000000⟩⟩
    let file := RegisterFile.alike
      (fun | .waveform => 1 | .frequency => 1000000000 | _ => 0)
      (fun register => by cases register <;> decide) (Or.inl rfl)
    (∃ early, (Identity.identify generator.port).Runs early (.result generator.identity)) ∧
      file.Attainable generator.identity.maxFrequency 2 .frequency ∧
      ∃ between, (holding file).perform generator (.readFrequency 2) =
          (.result (.value (megahertz 10)), between) ∧
        between.device.file = file ∧ between.Rewrites generator .frequency 2 (megahertz 10) := by
  intro generator file
  obtain ⟨early, identified⟩ := Identity.identify_bench
  have attainable : file.Attainable generator.identity.maxFrequency 2 .frequency :=
    @RegisterFile.Attainable.frequency file _ 2 _ _ _ 10000000 rfl (by decide +kernel) (by decide) (by decide)
  have reads : ((holding file).perform generator (.readFrequency 2)).1 =
      .result (.value (megahertz 10)) := by decide +kernel
  obtain ⟨_, value, between, read, same, rewrites⟩ :=
    @writes_back (holding file) .frequency 2 _ _ early identified rfl rfl (by decide) attainable
  have ended := reads.symm.trans (congrArg Prod.fst read)
  cases Reading.value.inj (Outcome.result.inj ended)
  exact ⟨⟨early, identified⟩, attainable, between, read, same, rewrites⟩

/-- An offset that was read is encoded to the number that its register holds already, for every
amplitude. It is set again exactly when its percentage, as it is computed, is within the limits, which
only the ends of the range can fail to be; else it is refused. -/
theorem offset_rewritten_iff {port : Port} {identity : Identity} {early : List Step}
    (identified : (Identity.identify port).Runs early (.result identity))
    (attached : desk.port = port) (idle : desk.device.waiting = []) (known : channel ∈ channels)
    (positive : 0 < desk.device.file.value (.register channel .amplitude))
    (bits : desk.device.file.value (.register channel .amplitude) ≤ 2 ^ 48)
    (least : 0 ≤ desk.device.file.value (.register channel .offset))
    (most : desk.device.file.value (.register channel .offset) ≤ 240) :
    ∃ amplitude volts percent between,
      desk.device.file.amplitude channel = .ok amplitude ∧
      desk.perform ⟨port, identity⟩ (.readOffset channel) = (.result (.value volts), between) ∧
      between.device.file = desk.device.file ∧
      Scaling.offsetPercent (.real volts) (.real amplitude) = .ok percent ∧
      Scaling.encodeOffsetPercent (.real percent) =
        .ok (desk.device.file.value (.register channel .offset)) ∧
      (1 ≤ desk.device.file.value (.register channel .offset) →
        desk.device.file.value (.register channel .offset) ≤ 239 →
        Between (.integer (-120)) 120 (.real percent)) ∧
      (between.Rewrites ⟨port, identity⟩ .offset channel volts ↔
        Between (.integer (-120)) 120 (.real percent)) ∧
      (¬ Between (.integer (-120)) 120 (.real percent) →
        between.RefusesOffset ⟨port, identity⟩ channel volts) := by
  obtain ⟨maximum, models, model⟩ := Identity.identify_maximum identified
  obtain ⟨reading, between, read, shows, resting, same⟩ :=
    @perform_reading ⟨port, identity⟩ desk .offset channel attached idle known
  obtain ⟨amplitude, volts, percent, found, decoded, finite, share, encoded, inside⟩ :=
    Scaling.offset_recoded (desk.device.file.attenuation channel) positive bits least most
  cases shows with | offset again shown
  cases Except.ok.inj (found.symm.trans again)
  cases Except.ok.inj (decoded.symm.trans shown)
  have placed : (Number.real volts).Finite := (Number.isFinite_iff rfl).mp finite
  have shares := @offsetShare_iff (.real volts) volts amplitude percent rfl share
  have rewritten : Between (.integer (-120)) 120 (.real percent) →
      between.Rewrites ⟨port, identity⟩ .offset channel volts := by
    intro within
    have stores : desk.device.file.Stores maximum (.setOffset channel (.real volts))
        (.register channel .offset) (desk.device.file.value (.register channel .offset)) :=
      .offset placed found ((shares percent).mpr ⟨rfl, within⟩) encoded
    rw [← resting.file] at stores
    exact rewrites_of_stores model models same resting.idle known stores
  have refused : ¬ Between (.integer (-120)) 120 (.real percent) →
      between.RefusesOffset ⟨port, identity⟩ channel volts := by
    intro outside
    rw [← resting.file] at found
    exact refuses_of_no_share model models same resting.idle known placed found
      fun share given => outside ((shares share).mp given).2
  refine ⟨amplitude, volts, percent, between, found, read, resting.file, share, encoded, inside,
    ⟨fun rewrites => ?_, rewritten⟩, refused⟩
  by_contra outside
  exact (refused outside).not_rewrites rewrites

/-- The least amplitude, a thousandth of a volt, with an offset just below its limit. -/
theorem offset_rewritten_below :
    let generator : Generator := ⟨⟨0, "bench"⟩, ⟨"MHS-25A00", .integer 25000000⟩⟩
    let file := RegisterFile.alike (fun | .amplitude => 1 | .offset => 239 | _ => 0)
      (fun register => by cases register <;> decide) (Or.inl rfl)
    (∃ early, (Identity.identify generator.port).Runs early (.result generator.identity)) ∧
      0 < file.value (.register 1 .amplitude) ∧ file.value (.register 1 .offset) ≤ 240 ∧
      ∃ volts between, (holding file).perform generator (.readOffset 1) =
          (.result (.value volts), between) ∧
        between.device.file = file ∧ between.Rewrites generator .offset 1 volts := by
  intro generator file
  obtain ⟨early, identified⟩ := Identity.identify_bench
  have positive : 0 < file.value (.register 1 .amplitude) := by decide
  have most : file.value (.register 1 .offset) ≤ 240 := by decide
  obtain ⟨amplitude, volts, percent, between, _, read, same, _, _, inside, rewritten, _⟩ :=
    @offset_rewritten_iff (holding file) 1 _ _ early identified rfl rfl (by decide) positive (by decide)
      (by decide) most
  have within := inside (by decide) (by decide)
  exact ⟨⟨early, identified⟩, positive, most, volts, between, read, same, rewritten.mpr within⟩

/-- At 0.13 V the highest offset is read as a value that is refused: its percentage is rounded up. -/
theorem offset_refused_at_limit :
    let generator : Generator := ⟨⟨0, "bench"⟩, ⟨"MHS-25A00", .integer 25000000⟩⟩
    let file := RegisterFile.alike (fun | .attenuation => 1 | .amplitude => 13 | .offset => 240 | _ => 0)
      (fun register => by cases register <;> decide) (Or.inr rfl)
    let volts := Binary64.ofDecimal false 15600000000000003 (-17)
    (∃ early, (Identity.identify generator.port).Runs early (.result generator.identity)) ∧
      ∃ between after, (holding file).perform generator (.readOffset 1) =
          (.result (.value volts), between) ∧
        between.perform generator (.setOffset 1 (.real volts)) =
          (.fault (.outOfRange "offset 0.15600000000000003 V at amplitude 0.13 V"
            ["offset > 120% of amplitude"]), after) ∧
        ¬ between.Rewrites generator .offset 1 volts := by
  intro generator file volts
  have reads : ((holding file).perform generator (.readOffset 1)).1 = .result (.value volts) := by
    decide +kernel
  have refuses : ((((holding file).perform generator (.readOffset 1)).2).perform generator
      (.setOffset 1 (.real volts))).1 = .fault (.outOfRange
        "offset 0.15600000000000003 V at amplitude 0.13 V" ["offset > 120% of amplitude"]) := by
    decide +kernel
  obtain ⟨between, read⟩ := exists_after reads
  rw [read] at refuses
  obtain ⟨after, refused⟩ := exists_after refuses
  refine ⟨Identity.identify_bench, between, after, read, refused, ?_⟩
  rintro ⟨_, done, _⟩
  rw [Adjustment.setting, refused] at done
  cases done

end Desk

end SignalGenerator
