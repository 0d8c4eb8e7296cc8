import SignalGenerator.Proofs.Recoding
import SignalGenerator.Proofs.Registers

/-!
Values that were read from a register, against the limits of their settings. What a register may hold is
read as a value that the setting lets through, so the registers allow it, as the number that they hold
already. Rounding to the nearest number does not cross a limit.
-/

namespace SignalGenerator

open Number (Between Fits)

namespace Number

theorem fits_real (x : Binary64) : Fits (.real x) := ⟨x, rfl⟩

theorem quotient_natural {raw den highest : Nat} (positive : 0 < den)
    (whole : Representable (highest * unitsPerOne)) (le : raw ≤ highest * den) : ∃ fits, Number.quotient raw den =
      .ok (.finite false (roundUnits (raw * unitsPerOne) den) fits) ∧
      roundUnits (raw * unitsPerOne) den ≤ highest * unitsPerOne := by
  have below : raw * unitsPerOne ≤ highest * unitsPerOne * den := by
    calc raw * unitsPerOne ≤ highest * den * unitsPerOne := Nat.mul_le_mul_right _ le
      _ = highest * unitsPerOne * den := Nat.mul_right_comm ..
  obtain ⟨fits, rounded, bounded⟩ :=
    Binary64.ofQuotient_bounded false positive whole below
  refine ⟨fits, ?_, bounded⟩
  unfold quotient
  rw [if_neg (by omega), decide_eq_false (by omega : ¬ (raw : Int) < 0),
    decide_eq_false (by omega : ¬ (den : Int) < 0), Int.natAbs_natCast, Int.natAbs_natCast]
  rw [bne_self_eq_false, rounded, finiteOr_finite]

/-- A quotient that is not above a whole number is not rounded above it. -/
theorem quotient_between {raw : Int} {den highest : Nat} {x : Binary64} (positive : 0 < den)
    (bits : highest < 2 ^ 53) (nonnegative : 0 ≤ raw) (le : raw ≤ highest * den)
    (divided : Number.quotient raw den = .ok x) : Between 0 (.integer highest) (.real x) := by
  obtain ⟨n, rfl⟩ := Int.eq_ofNat_of_zero_le nonnegative
  obtain ⟨fits, rounded, bounded⟩ := quotient_natural positive (representable_whole bits)
    (by exact_mod_cast le : n ≤ highest * den)
  cases Except.ok.inj (rounded.symm.trans divided)
  exact finite_between.mpr ⟨bounded, nofun⟩

theorem div_between {x y : Binary64} {n highest : Nat} (positive : 0 < n) (small : n < 2 ^ 53)
    (bits : highest < 2 ^ 53) (between : Between 0 (.integer (highest * n : Nat)) (.real x))
    (divided : (Number.real x).div (.integer n) = .ok y) : Between 0 (.integer highest) (.real y) := by
  obtain ⟨negative, units, fits, rfl⟩ := between.finite
  obtain ⟨below, sign⟩ := finite_between.mp between
  rw [div_natural positive small] at divided
  cases Except.ok.inj divided
  have exact : units * unitsPerOne ≤ highest * unitsPerOne * (n * unitsPerOne) := by
    calc units * unitsPerOne ≤ highest * n * unitsPerOne * unitsPerOne := Nat.mul_le_mul_right _ below
      _ = highest * unitsPerOne * (n * unitsPerOne) := by ring
  obtain ⟨narrow, rounded, bounded⟩ := Binary64.ofQuotient_bounded (negative != false)
    (Nat.mul_pos positive unitsPerOne_pos) (representable_whole bits) exact
  rw [Binary64.div_finite (Nat.mul_pos positive unitsPerOne_pos).ne', rounded]
  refine finite_between.mpr ⟨bounded, fun marked => ?_⟩
  rw [sign (by simpa only [Bool.bne_false] using marked), Nat.zero_mul]
  exact Nat.le_zero.mp (roundUnits_le (Nat.mul_pos positive unitsPerOne_pos) (Nat.dvd_zero _)
    (Nat.zero_le _))

end Number

namespace Limits

/-- A millionth and a hundredth lie on different sides of this power of two. -/
theorem microhertz_le {raw : Nat} (positive : 1 ≤ raw) : ∃ units,
    (Number.real microhertz).place = .units units ∧ units ≤ roundUnits (raw * unitsPerOne) 100 := by
  have quotient : microhertz = .ofQuotient false (1 * unitsPerOne) (10 ^ 6) := by
    unfold microhertz Binary64.ofDecimal
    rw [if_neg (by decide)]
    rfl
  have between : Representable (1 * 2 ^ 1066) := representable_mul_two_pow (by norm_num) (by norm_num)
  have same : unitsPerOne = 256 * (1 * 2 ^ 1066) := by
    rw [unitsPerOne_eq, Nat.one_mul, show (256 : Nat) = 2 ^ 8 from rfl, ← Nat.pow_add]
  generalize 1 * 2 ^ 1066 = part at between same
  obtain ⟨_, rounded, below⟩ := Binary64.ofQuotient_bounded false (by norm_num : 0 < 10 ^ 6) between
    (by rw [same]; omega : 1 * unitsPerOne ≤ part * 10 ^ 6)
  have above : part ≤ roundUnits (raw * unitsPerOne) 100 := by
    refine le_roundUnits (by norm_num) between.grid ?_
    calc part * 100 ≤ 1 * unitsPerOne := by omega
      _ ≤ raw * unitsPerOne := Nat.mul_le_mul_right _ positive
  rw [quotient, rounded]
  refine ⟨_, Number.place_finite, ?_⟩
  exact Int.ofNat_le.mpr (below.trans above)

theorem waveformTable_lowest {entry : WaveformRange} (member : entry ∈ waveformTable) :
    entry.lowest = microhertz := by
  simp only [waveformTable, List.mem_cons, List.not_mem_nil, or_false] at member
  rcases member with rfl | rfl | rfl | rfl | rfl
  all_goals dsimp only

/-- The range of a waveform begins with zero or with the lowest frequency of the table. -/
theorem frequencyRange_lowest {waveform : Waveform} {maximum lowest highest step : Number} {channel : Int}
    (range : frequencyRange waveform maximum channel = .ok (lowest, highest, step)) :
    lowest = .real Binary64.zero ∨ lowest = (Number.real microhertz).greatest (.real Binary64.zero) := by
  unfold frequencyRange at range
  split at range
  · cases range
  rename_i table found
  have waveforms : table.waveforms = waveformTable := by
    unfold channelTable? at found
    split at found
    · cases found
      rfl
    split at found
    · cases found
      rfl
    · cases found
  split at range
  · obtain ⟨rfl, _⟩ := Prod.mk.inj (Except.ok.inj range)
    exact Or.inl rfl
  · rename_i entry listed
    have member : entry ∈ waveformTable := waveforms ▸ List.mem_of_find?_eq_some listed
    rw [waveformTable_lowest member] at range
    obtain ⟨rfl, _⟩ := Prod.mk.inj (Except.ok.inj range)
    exact Or.inr rfl

/-- The highest frequency of a waveform is not above the highest one of the model. -/
theorem frequencyRange_highest {waveform : Waveform} {maximum channel top : Int}
    {lowest highest step : Number} (known : channel ∈ channels)
    (range : frequencyRange waveform (.integer maximum) channel = .ok (lowest, highest, step))
    (whole : highest.place = (Number.integer top).place) : top ≤ maximum := by
  obtain ⟨_, _, _, _, high, again, _, placed, _, below⟩ := frequencyRange_bounds known
  cases Except.ok.inj (again.symm.trans range)
  cases placed.symm.trans whole
  exact Int.le_of_mul_le_mul_right below (Int.natCast_pos.mpr unitsPerOne_pos)

/-- Every frequency on the line from one step up to the highest frequency of the range may be set. -/
theorem frequency_accepted {waveform : Waveform} {maximum lowest highest step : Number}
    {channel raw top : Int} {hertz : Binary64}
    (range : frequencyRange waveform maximum channel = .ok (lowest, highest, step))
    (whole : highest.place = (Number.integer top).place) (bits : top < 2 ^ 53) (least : 1 ≤ raw)
    (most : raw ≤ 100 * top) (decoded : Scaling.decodeFrequency raw = .ok hertz) :
    frequencyErrors (.real hertz) waveform maximum channel = .ok [] := by
  obtain ⟨n, rfl⟩ := Int.eq_ofNat_of_zero_le (by omega : 0 ≤ raw)
  obtain ⟨height, rfl⟩ := Int.eq_ofNat_of_zero_le (by omega : 0 ≤ top)
  obtain ⟨fits, rounded, bounded⟩ :=
    @Number.quotient_natural n 100 height (by norm_num) (representable_whole (by omega)) (by omega)
  obtain ⟨micro, placed, above⟩ := @microhertz_le n (by omega)
  have lowPlace : ∃ low : Int, lowest.place = .units low ∧ low ≤ roundUnits (n * unitsPerOne) 100 := by
    have positive := Int.natCast_nonneg (roundUnits (n * unitsPerOne) 100)
    rcases frequencyRange_lowest range with same | same
    · exact ⟨0, same ▸ Number.zero_place, positive⟩
    · refine ⟨max micro 0, ?_, max_le above positive⟩
      rw [same]
      exact Number.greatest_place placed Number.zero_place
  obtain ⟨low, lowPlace, below⟩ := lowPlace
  cases Except.ok.inj (rounded.symm.trans decoded)
  have located : (Number.real (.finite false _ fits)).place = .units (roundUnits (n * unitsPerOne) 100) :=
    Number.place_finite
  exact (frequencyErrors_nil_iff (Number.fits_real _) range lowPlace whole).mpr
    ⟨low, _, _, lowPlace, whole, located, below, Int.ofNat_le.mpr bounded⟩

end Limits

namespace Scaling

theorem decodeAmplitude_between {raw : Int} {attenuation : Attenuation} {volts : Binary64}
    (nonnegative : 0 ≤ raw) (le : raw ≤ highestAmplitude attenuation)
    (decoded : decodeAmplitude raw attenuation = .ok volts) : Between 0 20 (.real volts) := by
  rw [decodeAmplitude_eq] at decoded
  cases divided : Number.quotient raw (100 : Nat) with
  | error fault =>
    rw [divided] at decoded
    cases decoded
  | ok scaled =>
    rw [divided, Except.bind] at decoded
    cases attenuation with
    | zero =>
      cases Except.ok.inj decoded
      exact @Number.quotient_between _ 100 20 _ (by norm_num) (by norm_num) nonnegative le divided
    | minusTwenty =>
      have between := @Number.quotient_between _ 100 200 _ (by norm_num) (by norm_num) nonnegative le divided
      exact @Number.div_between _ _ 10 20 (by norm_num) (by norm_num) (by norm_num) between decoded

theorem decodeDutyCycle_between {raw : Int} {percent : Binary64} (nonnegative : 0 ≤ raw)
    (le : raw ≤ 1000) (decoded : decodeDutyCycle raw = .ok percent) : Between 0 100 (.real percent) :=
  @Number.quotient_between _ 10 100 _ (by norm_num) (by norm_num) nonnegative le decoded

end Scaling

namespace Adjustment

/-- The register that a setting is kept in. -/
def register : Adjustment → Register
  | .frequency => .frequency
  | .amplitude => .amplitude
  | .offset => .offset
  | .phase => .phase
  | .dutyCycle => .dutyCycle

/-- The operation that reads a setting of a channel. -/
def reading (channel : Int) : Adjustment → Operation
  | .frequency => .readFrequency channel
  | .amplitude => .readAmplitude channel
  | .offset => .readOffset channel
  | .phase => .readPhase channel
  | .dutyCycle => .readDutyCycle channel

/-- The operation that makes a setting of a channel. -/
def setting (channel : Int) (value : Number) : Adjustment → Operation
  | .frequency => .setFrequency channel value
  | .amplitude => .setAmplitude channel value
  | .offset => .setOffset channel value
  | .phase => .setPhase channel value
  | .dutyCycle => .setDutyCycle channel value

/-- What is read before a setting is made. -/
def asks (channel : Int) : Adjustment → List Command
  | .frequency => [.read channel .waveform]
  | .amplitude => [.read channel .attenuation]
  | .offset => [.read channel .attenuation, .read channel .amplitude]
  | .phase | .dutyCycle => []

variable {adjustment : Adjustment} {channel : Int} {value : Number} {x : Binary64}

theorem reading_known (known : channel ∈ channels) : (adjustment.reading channel).Known := by
  rintro _ given
  cases adjustment <;> cases given <;> exact known

theorem setting_known (known : channel ∈ channels) : (adjustment.setting channel value).Known := by
  rintro _ given
  cases adjustment <;> cases given <;> exact known

theorem setting_fits (number : Number)
    (given : (adjustment.setting channel (.real x)).argument? = some number) : number.Fits := by
  cases adjustment <;> cases given <;> exact Number.fits_real x

theorem setting_sets : (adjustment.setting channel value).register?.isSome := by
  cases adjustment <;> rfl

end Adjustment

/-- An amplitude has one share for an offset at most. -/
theorem OffsetShare.unique {volts : Number} {amplitude percent share : Binary64}
    (first : OffsetShare volts amplitude percent) (second : OffsetShare volts amplitude share) :
    percent = share := by
  cases first with
  | none flat _ =>
    cases second with
    | none => rfl
    | percent steep => exact absurd flat steep
  | percent steep converted =>
    cases second with
    | none flat => exact absurd flat steep
    | percent _ again =>
      cases Except.ok.inj (converted.symm.trans again)
      rfl

namespace RegisterFile

/-- A register that holds what its setting may put there. A frequency goes up to the highest one, `top`,
that the waveform has with this maximum of the model. Of an offset nothing can be said without rounding. -/
inductive Attainable (file : RegisterFile) (maximum : Number) (channel : Int) : Adjustment → Prop
  | frequency {lowest highest step top} :
      Limits.frequencyRange (.ofId (file.value (.register channel .waveform))) maximum channel =
        .ok (lowest, highest, step) →
      highest.place = (Number.integer top).place →
      1 ≤ file.value (.register channel .frequency) →
      file.value (.register channel .frequency) ≤ 100 * top → Attainable file maximum channel .frequency
  | amplitude : 0 ≤ file.value (.register channel .amplitude) →
      file.value (.register channel .amplitude) ≤ Scaling.highestAmplitude (file.attenuation channel) →
      Attainable file maximum channel .amplitude
  | phase : 0 ≤ file.value (.register channel .phase) → file.value (.register channel .phase) ≤ 359 →
      Attainable file maximum channel .phase
  | dutyCycle : 0 ≤ file.value (.register channel .dutyCycle) →
      file.value (.register channel .dutyCycle) ≤ 1000 → Attainable file maximum channel .dutyCycle

variable {file before after : RegisterFile} {maximum : Nat} {operation : Operation} {cell other : Cell}
  {m n : Int} {ending : Outcome Reading}

theorem eq_of_value (same : before.value = after.value) : before = after := by
  cases before
  cases after
  cases same
  rfl

/-- The registers allow one number for a setting at most. -/
theorem Stores.unique (first : file.Stores maximum operation cell n)
    (second : file.Stores maximum operation other m) : cell = other ∧ n = m := by
  cases first with
  | waveform =>
    cases second
    exact ⟨rfl, rfl⟩
  | output =>
    cases second
    exact ⟨rfl, rfl⟩
  | frequency _ encoded =>
    cases second with | frequency _ again
    exact ⟨rfl, Except.ok.inj (encoded.symm.trans again)⟩
  | amplitude _ encoded =>
    cases second with | amplitude _ again
    exact ⟨rfl, Except.ok.inj (encoded.symm.trans again)⟩
  | offset _ found share encoded =>
    cases second with | offset _ foundAgain shareAgain again
    cases Except.ok.inj (found.symm.trans foundAgain)
    cases share.unique shareAgain
    exact ⟨rfl, Except.ok.inj (encoded.symm.trans again)⟩
  | phase encoded =>
    cases second with | phase again
    exact ⟨rfl, Except.ok.inj (encoded.symm.trans again)⟩
  | dutyCycle _ encoded =>
    cases second with | dutyCycle _ again
    exact ⟨rfl, Except.ok.inj (encoded.symm.trans again)⟩

/-- A setting that the registers allow is accepted and stored. -/
theorem Follows.of_stores (follows : before.Follows maximum operation ending after)
    (known : operation.Known) (stores : before.Stores maximum operation cell n) :
    ending = .result .done ∧ after.value = Function.update before.value cell n := by
  cases follows with
  | shown _ shows => cases shows <;> cases stores
  | stored _ again changed =>
    obtain ⟨rfl, rfl⟩ := again.unique stores
    exact ⟨rfl, changed⟩
  | refused _ none _ => exact absurd stores (none _ _)
  | unknown strange _ => exact absurd known strange

/-- A setting that the registers do not allow is refused, and they stay as they are. -/
theorem Follows.of_refused (follows : before.Follows maximum operation ending after)
    (known : operation.Known) (sets : operation.register?.isSome)
    (none : ∀ cell n, ¬ before.Stores maximum operation cell n) : Invalid ending ∧ after = before := by
  cases follows with
  | shown _ shows => cases shows <;> cases sets
  | stored _ stores _ => exact absurd stores (none _ _)
  | refused _ _ invalid => exact ⟨invalid, rfl⟩
  | unknown strange _ => exact absurd known strange

/-- A value that is read from a register in its range is one that the registers allow, and it is stored
as the number that is there. -/
theorem Attainable.stores {channel : Int} {adjustment : Adjustment} {reading : Reading}
    (attainable : file.Attainable (.integer maximum) channel adjustment) (known : channel ∈ channels)
    (models : maximum ≤ 99000000) (shows : file.Shows (adjustment.reading channel) reading) :
    ∃ value, reading = .value value ∧ file.Stores maximum (adjustment.setting channel (.real value))
      (.register channel adjustment.register) (file.value (.register channel adjustment.register)) := by
  cases attainable with
  | frequency range whole least most =>
    cases shows with | @frequency _ hertz decoded
    have top := Limits.frequencyRange_highest known range whole
    obtain ⟨_, again, encoded⟩ :=
      (@Scaling.recodes (file.value (.register channel .frequency)) (by omega)).frequency
    cases Except.ok.inj (again.symm.trans decoded)
    have passed := Limits.frequency_accepted range whole (by omega) least most decoded
    exact ⟨hertz, rfl, .frequency passed encoded⟩
  | amplitude least most =>
    cases shows with | @amplitude _ volts decoded
    have high := Scaling.highestAmplitude_le (file.attenuation channel)
    obtain ⟨_, again, encoded⟩ :=
      (@Scaling.recodes (file.value (.register channel .amplitude)) (by omega)).amplitude
        (file.attenuation channel)
    cases Except.ok.inj (again.symm.trans decoded)
    exact ⟨volts, rfl, .amplitude (Scaling.decodeAmplitude_between least most decoded) encoded⟩
  | phase least most =>
    cases shows with | @phase _ degrees decoded
    obtain ⟨_, again, encoded⟩ :=
      (@Scaling.recodes (file.value (.register channel .phase)) (by omega)).phase
    cases Except.ok.inj (again.symm.trans decoded)
    rw [Int.emod_eq_of_lt least (by omega)] at encoded
    exact ⟨degrees, rfl, .phase encoded⟩
  | dutyCycle least most =>
    cases shows with | @dutyCycle _ percent decoded
    obtain ⟨_, again, encoded⟩ :=
      (@Scaling.recodes (file.value (.register channel .dutyCycle)) (by omega)).dutyCycle
    cases Except.ok.inj (again.symm.trans decoded)
    exact ⟨percent, rfl, .dutyCycle (Scaling.decodeDutyCycle_between least most decoded) encoded⟩

end RegisterFile

end SignalGenerator
