import SignalGenerator.Proofs.Device
import SignalGenerator.Proofs.Validation

/-!
What the operations on a generator mean for its registers. Reading gives the decoding of the registers
as they are. Setting stores one number, encoded, or is refused, and what is read after it is the number
that was stored.
-/

namespace SignalGenerator

open Number (Between Finite Fits)

namespace RegisterFile

def attenuation (file : RegisterFile) (channel : Int) : Attenuation :=
  if file.value (.register channel .attenuation) = 0 then .minusTwenty else .zero

/-- The amplitude of a channel in volts, for the attenuation that is switched. -/
def amplitude (file : RegisterFile) (channel : Int) : Except ArithmeticFault Binary64 :=
  Scaling.decodeAmplitude (file.value (.register channel .amplitude)) (file.attenuation channel)

/-- What is read from these registers. -/
inductive Shows (file : RegisterFile) : Operation → Reading → Prop
  | waveform {channel} : Shows file (.readWaveform channel)
      (.waveform (.ofId (file.value (.register channel .waveform))))
  | attenuation {channel} :
      Shows file (.readAttenuation channel) (.attenuation (file.attenuation channel))
  | output : Shows file .readOutput (.enabled (decide (file.value .output ≠ 0)))
  | frequency {channel hertz} :
      Scaling.decodeFrequency (file.value (.register channel .frequency)) = .ok hertz →
      Shows file (.readFrequency channel) (.value hertz)
  | amplitude {channel volts} : file.amplitude channel = .ok volts →
      Shows file (.readAmplitude channel) (.value volts)
  | offset {channel amplitude volts} : file.amplitude channel = .ok amplitude →
      Scaling.decodeOffset (file.value (.register channel .offset)) (.real amplitude) = .ok volts →
      Shows file (.readOffset channel) (.value volts)
  | phase {channel degrees} :
      (Number.integer (file.value (.register channel .phase))).toReal = .ok degrees →
      Shows file (.readPhase channel) (.value degrees)
  | dutyCycle {channel percent} :
      Scaling.decodeDutyCycle (file.value (.register channel .dutyCycle)) = .ok percent →
      Shows file (.readDutyCycle channel) (.value percent)

/-- The cell that a setting is stored in and the number for it, when these registers allow it. -/
inductive Stores (file : RegisterFile) (maximum : Nat) : Operation → Cell → Int → Prop
  | waveform {channel waveform} : waveform ≠ .unknown →
      Stores file maximum (.setWaveform channel waveform) (.register channel .waveform)
        (waveform : Waveform).id
  | output {enabled} :
      Stores file maximum (.setOutput enabled) .output (if enabled then 1 else 0)
  | frequency {channel hertz n} :
      Limits.frequencyErrors hertz (.ofId (file.value (.register channel .waveform)))
        (.integer maximum) channel = .ok [] →
      Scaling.encodeFrequency hertz = .ok n →
      Stores file maximum (.setFrequency channel hertz) (.register channel .frequency) n
  | amplitude {channel volts n} : Between 0 20 volts →
      Scaling.encodeAmplitude volts (file.attenuation channel) = .ok n →
      Stores file maximum (.setAmplitude channel volts) (.register channel .amplitude) n
  | offset {channel volts amplitude percent n} : volts.Finite →
      file.amplitude channel = .ok amplitude → OffsetShare volts amplitude percent →
      Scaling.encodeOffsetPercent (.real percent) = .ok n →
      Stores file maximum (.setOffset channel volts) (.register channel .offset) n
  | phase {channel degrees n} : Scaling.encodePhase degrees = .ok n →
      Stores file maximum (.setPhase channel degrees) (.register channel .phase) n
  | dutyCycle {channel percent n} : Between 0 100 percent →
      Scaling.encodeDutyCycle percent = .ok n →
      Stores file maximum (.setDutyCycle channel percent) (.register channel .dutyCycle) n

end RegisterFile

namespace Operation

/-- An operation for a channel that there is, or for none. -/
def Known (operation : Operation) : Prop :=
  ∀ channel, operation.channel? = some channel → channel ∈ channels

/-- The operations that read or set one thing. -/
def OnPanel : Operation → Prop
  | .readStatus _ | .selectFunction _ | .enableCounter _ | .setGateTime _ | .readCounter
  | .measure _ => False
  | _ => True

/-- The operation that reads what this one sets. -/
def readBack? : Operation → Option Operation
  | .setWaveform channel _ => some (.readWaveform channel)
  | .setOutput _ => some .readOutput
  | .setFrequency channel _ => some (.readFrequency channel)
  | .setAmplitude channel _ => some (.readAmplitude channel)
  | .setOffset channel _ => some (.readOffset channel)
  | .setPhase channel _ => some (.readPhase channel)
  | .setDutyCycle channel _ => some (.readDutyCycle channel)
  | _ => none

end Operation

namespace RegisterFile

/-- What an operation gives back and makes of the registers. -/
inductive Follows (before : RegisterFile) (maximum : Nat) (operation : Operation) :
    Outcome Reading → RegisterFile → Prop
  | shown {reading} : operation.Known → before.Shows operation reading →
      Follows before maximum operation (.result reading) before
  | stored {cell n after} : operation.Known → before.Stores maximum operation cell n →
      after.value = Function.update before.value cell n →
      Follows before maximum operation (.result .done) after
  | refused {ending} : operation.register?.isSome →
      (∀ cell n, ¬ before.Stores maximum operation cell n) → Invalid ending →
      Follows before maximum operation ending before
  | unknown {ending} : ¬ operation.Known → Invalid ending →
      Follows before maximum operation ending before

/-- What is read right after a setting: the setting, encoded and decoded, with the attenuation and the
amplitude that there were. -/
inductive ReadBack (file : RegisterFile) : Operation → Reading → Prop
  | waveform {channel waveform} :
      ReadBack file (.setWaveform channel waveform) (.waveform waveform)
  | output {enabled} : ReadBack file (.setOutput enabled) (.enabled enabled)
  | frequency {channel hertz n decoded} : Scaling.encodeFrequency hertz = .ok n →
      Scaling.decodeFrequency n = .ok decoded →
      ReadBack file (.setFrequency channel hertz) (.value decoded)
  | amplitude {channel volts n decoded} :
      Scaling.encodeAmplitude volts (file.attenuation channel) = .ok n →
      Scaling.decodeAmplitude n (file.attenuation channel) = .ok decoded →
      ReadBack file (.setAmplitude channel volts) (.value decoded)
  | offset {channel volts amplitude percent n decoded} : file.amplitude channel = .ok amplitude →
      OffsetShare volts amplitude percent → Scaling.encodeOffsetPercent (.real percent) = .ok n →
      Scaling.decodeOffset n (.real amplitude) = .ok decoded →
      ReadBack file (.setOffset channel volts) (.value decoded)
  | phase {channel degrees n decoded} : Scaling.encodePhase degrees = .ok n →
      (Number.integer n).toReal = .ok decoded →
      ReadBack file (.setPhase channel degrees) (.value decoded)
  | dutyCycle {channel percent n decoded} : Scaling.encodeDutyCycle percent = .ok n →
      Scaling.decodeDutyCycle n = .ok decoded →
      ReadBack file (.setDutyCycle channel percent) (.value decoded)

end RegisterFile

theorem Waveform.ofId_id (waveform : Waveform) : Waveform.ofId waveform.id = waveform := by
  cases waveform <;> rfl

namespace RegisterFile

variable {file before after last : RegisterFile} {maximum : Nat} {operation setting getting : Operation}
  {cell : Cell} {n : Int} {ending : Outcome Reading}

theorem natAbs_lt (file : RegisterFile) (cell : Cell) : (file.value cell).natAbs < 10 ^ 28 :=
  Reply.integer?_natAbs_lt (Reply.integer?_toString _) (file.short cell)

theorem ofId?_attenuation (file : RegisterFile) (channel : Int) :
    Attenuation.ofId? (file.value (.register channel .attenuation)) =
      some (file.attenuation channel) := by
  unfold attenuation
  rcases file.switched channel with same | same
  · rw [same]
    rfl
  · rw [same]
    rfl

theorem amplitude_ok (file : RegisterFile) (channel : Int) :
    ∃ volts, file.amplitude channel = .ok volts :=
  Scaling.decodeAmplitude_ok (file.natAbs_lt _) _

/-- What can be stored is not unfit. -/
theorem Stores.fit (known : operation.Known) (stores : file.Stores maximum operation cell n) :
    ¬ operation.Unfit maximum := by
  intro unfit
  cases stores with
  | waveform named => exact named unfit
  | output => exact unfit
  | frequency passed => exact unfit (Limits.frequency_between (known _ rfl) passed)
  | amplitude between => exact unfit between
  | offset finite => exact unfit finite
  | phase encoded => exact unfit (Scaling.finite_of_encodePhase encoded)
  | dutyCycle between => exact unfit between

theorem Follows.of_done (follows : before.Follows maximum setting (.result .done) after) :
    ∃ cell n, setting.Known ∧ before.Stores maximum setting cell n ∧
      after.value = Function.update before.value cell n := by
  cases follows with
  | shown _ shows => cases shows
  | stored known stores changed => exact ⟨_, _, known, stores, changed⟩
  | refused _ _ invalid =>
    obtain ⟨_, ended, _⟩ := invalid
    cases ended
  | unknown _ invalid =>
    obtain ⟨_, ended, _⟩ := invalid
    cases ended

/-- Reading the channel of a setting that was known always gives something. -/
theorem Follows.of_readBack (follows : before.Follows maximum getting ending after)
    (known : setting.Known) (pair : setting.readBack? = some getting) :
    ∃ reading, ending = .result reading ∧ before.Shows getting reading := by
  have reads : getting.Known ∧ getting.register? = none ∧
      ∀ cell n, ¬ before.Stores maximum getting cell n := by
    cases setting <;> cases pair <;> exact ⟨known, rfl, nofun⟩
  obtain ⟨same, sets, stores⟩ := reads
  cases follows with
  | shown _ shows => exact ⟨_, rfl, shows⟩
  | stored _ given _ => exact absurd given (stores _ _)
  | refused given _ _ =>
    rw [sets] at given
    cases given
  | unknown strange _ => exact absurd same strange

/-- Reading right after a setting that was accepted gives the setting, encoded and decoded. -/
theorem Follows.readBack (set : before.Follows maximum setting (.result .done) after)
    (get : after.Follows maximum getting ending last) (pair : setting.readBack? = some getting) :
    ∃ reading, ending = .result reading ∧ before.ReadBack setting reading := by
  obtain ⟨cell, n, known, stores, changed⟩ := set.of_done
  obtain ⟨reading, rfl, shows⟩ := get.of_readBack known pair
  refine ⟨reading, rfl, ?_⟩
  have own : after.value cell = n := by rw [changed, Function.update_self]
  have kept : ∀ other, other ≠ cell → after.value other = before.value other := by
    intro other different
    rw [changed, Function.update_of_ne different]
  cases stores with
  | waveform named =>
    cases pair
    cases shows
    rw [own, Waveform.ofId_id]
    exact .waveform
  | @output enabled =>
    cases pair
    cases shows
    rw [own]
    cases enabled <;> exact .output
  | frequency _ encoded =>
    cases pair
    cases shows with | frequency decoded
    rw [own] at decoded
    exact .frequency encoded decoded
  | @amplitude channel _ _ _ encoded =>
    cases pair
    cases shows with | amplitude decoded
    have switched : after.attenuation channel = before.attenuation channel := by
      unfold attenuation
      rw [kept _ (by simp)]
    rw [amplitude, own, switched] at decoded
    exact .amplitude encoded decoded
  | @offset channel _ _ _ _ _ found share encoded =>
    cases pair
    cases shows with | offset again decoded
    have same : after.amplitude channel = before.amplitude channel := by
      unfold amplitude attenuation
      rw [kept _ (by simp), kept _ (by simp)]
    cases Except.ok.inj (found.symm.trans (same.symm.trans again))
    rw [own] at decoded
    exact .offset found share encoded decoded
  | phase encoded =>
    cases pair
    cases shows with | phase decoded
    rw [own] at decoded
    exact .phase encoded decoded
  | dutyCycle _ encoded =>
    cases pair
    cases shows with | dutyCycle decoded
    rw [own] at decoded
    exact .dutyCycle encoded decoded

end RegisterFile

/-- An operation in a session, with the registers before and after it. -/
structure Event where
  before : RegisterFile
  operation : Operation
  ending : Outcome Reading
  after : RegisterFile

/-- A history of operations, each of which goes on with the registers that the one before it left. -/
inductive RegisterFile.History (maximum : Nat) :
    RegisterFile → List Operation → List Event → Prop
  | nil {file} : History maximum file [] []
  | cons {before operation ending after operations events} :
      before.Follows maximum operation ending after → History maximum after operations events →
      History maximum before (operation :: operations)
        (⟨before, operation, ending, after⟩ :: events)

/-- In every history what is read right after a setting that was accepted is that setting. -/
theorem RegisterFile.History.readBack {file : RegisterFile} {maximum : Nat}
    {operations : List Operation} {events earlier later : List Event} {setting getting : Event}
    (history : file.History maximum operations events)
    (split : events = earlier ++ setting :: getting :: later)
    (accepted : setting.ending = .result .done)
    (pair : setting.operation.readBack? = some getting.operation) :
    ∃ reading, getting.ending = .result reading ∧
      setting.before.ReadBack setting.operation reading := by
  induction history generalizing earlier with
  | nil => simp at split
  | cons follows rest ih =>
    cases earlier with
    | cons event earlier =>
      obtain ⟨_, same⟩ := List.cons.inj split
      exact ih same
    | nil =>
      obtain ⟨rfl, same⟩ := List.cons.inj split
      cases rest with
      | nil => cases same
      | cons next _ =>
        obtain ⟨rfl, _⟩ := List.cons.inj same
        cases accepted
        exact follows.readBack next pair

end SignalGenerator
