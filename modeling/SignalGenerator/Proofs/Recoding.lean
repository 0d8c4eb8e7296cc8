import SignalGenerator.Proofs.Encoding
import SignalGenerator.Proofs.Precision

/-!
Settings that are decoded and encoded again. The few roundings on the way do not add up to a step of the
register, so that the same number is sent that was read.
-/

namespace SignalGenerator

open Binary64 (Near Moderate Whole toRat)

/-- A number of 48 bits over a small scale. -/
theorem moderate_quotient {raw : Int} {den : Nat} (positive : 0 < den) (small : den ≤ 1000)
    (bits : raw.natAbs ≤ 2 ^ 48) : Moderate (raw / den : ℚ) := by
  by_cases zero : raw = 0
  · left
    rw [zero, Int.cast_zero, zero_div]
  · right
    have divisor : (1 : ℚ) ≤ den := by exact_mod_cast positive
    have scale : (den : ℚ) ≤ 1000 := by exact_mod_cast small
    have size : |(raw : ℚ)| = (raw.natAbs : Nat) := by rw [Nat.cast_natAbs, Int.cast_abs]
    have least : (1 : ℚ) ≤ (raw.natAbs : Nat) := by exact_mod_cast Int.natAbs_pos.mpr zero
    have most : ((raw.natAbs : Nat) : ℚ) ≤ 2 ^ 48 := by exact_mod_cast bits
    rw [abs_div, size, abs_of_nonneg (by linarith : (0 : ℚ) ≤ den)]
    constructor
    · rw [le_div_iff₀ (by linarith)]
      linarith
    · rw [div_le_iff₀ (by linarith)]
      linarith

theorem Binary64.Near.mono {few more : Nat} {value : ℚ} {x : Binary64} (near : x.Near few value)
    (le : few ≤ more) : x.Near more value := by
  refine ⟨near.1, near.2.trans (mul_le_mul_of_nonneg_left ?_ (abs_nonneg value))⟩
  exact sub_le_sub_right (pow_le_pow_right₀ (by norm_num [roundoff]) le) 1

/-- To divide by a natural number is one rounding more. -/
theorem Number.div_near {roundings n : Nat} {value : ℚ} {x : Binary64} (near : x.Near roundings value)
    (few : roundings ≤ 4) (positive : 0 < n) (bits : n < 2 ^ 53) (sized : Moderate (value / n)) :
    ∃ y, (Number.real x).div (.integer n) = .ok y ∧ y.Near (roundings + 1) (value / n) := by
  have whole : (Binary64.finite false (n * unitsPerOne) (representable_whole bits)).Whole n :=
    Binary64.whole_finite rfl
  have exact := whole.toRat_eq
  rw [Int.cast_natCast] at exact
  refine ⟨_, Number.div_natural positive bits, ?_⟩
  rw [← exact] at sized ⊢
  refine near.div whole.isFinite ?_ few sized
  rw [exact]
  exact_mod_cast positive.ne'

/-- Between two integers, as a value. -/
theorem Number.between_of_toRat {low high : Int} {x : Binary64} (finite : x.isFinite = true)
    (least : low ≤ x.toRat) (most : x.toRat ≤ high) :
    Number.Between (.integer low) (.integer high) (.real x) := by
  obtain ⟨negative, units, fits, rfl⟩ := Binary64.exists_finite finite
  have positive := Binary64.perOne_pos
  have same := Binary64.perOne_eq
  refine Number.between_integers.mpr ⟨_, Number.place_finite, ?_⟩
  rw [Binary64.toRat] at least most
  rw [le_div_iff₀ positive, same] at least
  rw [div_le_iff₀ positive, same] at most
  generalize unitsPerOne = one at least most ⊢
  exact ⟨by exact_mod_cast least, by exact_mod_cast most⟩

namespace Scaling

variable {raw : Int} (bits : raw.natAbs ≤ 2 ^ 48)

include bits

/-- What is near a part of an integer is multiplied to this integer again. -/
theorem rescaled {den roundings : Nat} {x : Binary64} (near : x.Near roundings (raw / den))
    (few : roundings ≤ 3) (positive : 0 < den) (small : den ≤ 1000) :
    ((Number.real x).mul (.integer den)).bind Number.roundAway = .ok raw := by
  obtain ⟨y, converted, whole⟩ := @Number.toReal_whole den (by rw [Int.natAbs_natCast]; omega)
  have exact : (raw / den : ℚ) * y.toRat = raw := by
    rw [whole.toRat_eq, Int.cast_natCast]
    exact div_mul_cancel₀ _ (by exact_mod_cast positive.ne')
  have sized : Moderate ((raw / den : ℚ) * y.toRat) := by
    have moderate := moderate_quotient Nat.one_pos (by norm_num) bits
    rwa [Nat.cast_one, div_one, ← exact] at moderate
  have product := near.mul whole.isFinite (by omega) sized
  rw [exact] at product
  rw [Number.mul_eq converted]
  exact Number.roundAway_of_near product (by omega) bits

omit bits in
theorem encodeFrequency_eq (hertz : Number) :
    encodeFrequency hertz = (hertz.mul (.integer (100 : Nat))).bind Number.roundAway := rfl

omit bits in
theorem encodeDutyCycle_eq (percent : Number) :
    encodeDutyCycle percent = (percent.mul (.integer (10 : Nat))).bind Number.roundAway := rfl

/-- A frequency that was read is encoded to the number that it was read from. -/
theorem frequency_recoded : ∃ hertz, decodeFrequency raw = .ok hertz ∧
    encodeFrequency (.real hertz) = .ok raw := by
  obtain ⟨hertz, decoded, near⟩ :=
    @Number.quotient_near raw 100 (by norm_num) (moderate_quotient (by norm_num) (by norm_num) bits)
  refine ⟨hertz, decoded, ?_⟩
  rw [encodeFrequency_eq]
  exact rescaled bits near (by norm_num) (by norm_num) (by norm_num)

theorem dutyCycle_recoded : ∃ percent, decodeDutyCycle raw = .ok percent ∧
    encodeDutyCycle (.real percent) = .ok raw := by
  obtain ⟨percent, decoded, near⟩ :=
    @Number.quotient_near raw 10 (by norm_num) (moderate_quotient (by norm_num) (by norm_num) bits)
  refine ⟨percent, decoded, ?_⟩
  rw [encodeDutyCycle_eq]
  exact rescaled bits near (by norm_num) (by norm_num) (by norm_num)

omit bits in
/-- The steps of the amplitude on the line in one volt. -/
def stepsPerVolt : Attenuation → Nat
  | .minusTwenty => 1000
  | .zero => 100

omit bits in
theorem stepsPerVolt_range (attenuation : Attenuation) :
    0 < stepsPerVolt attenuation ∧ stepsPerVolt attenuation ≤ 1000 := by cases attenuation <;> decide

omit bits in
theorem encodeAmplitude_eq (volts : Number) (attenuation : Attenuation) :
    encodeAmplitude volts attenuation =
      (volts.mul (.integer (stepsPerVolt attenuation))).bind Number.roundAway := by
  cases attenuation <;> rfl

omit bits in
theorem decodeAmplitude_eq (raw : Int) (attenuation : Attenuation) :
    decodeAmplitude raw attenuation = (Number.quotient raw (100 : Nat)).bind fun volts =>
      match attenuation with
      | .minusTwenty => (Number.real volts).div (.integer (10 : Nat))
      | .zero => .ok volts := rfl

/-- An amplitude is off by two roundings at most: where the output is attenuated it is divided twice. -/
theorem decodeAmplitude_near (attenuation : Attenuation) : ∃ volts,
    decodeAmplitude raw attenuation = .ok volts ∧ volts.Near 2 (raw / stepsPerVolt attenuation) := by
  obtain ⟨volts, decoded, near⟩ :=
    @Number.quotient_near raw 100 (by norm_num) (moderate_quotient (by norm_num) (by norm_num) bits)
  rw [decodeAmplitude_eq, decoded, Except.bind]
  cases attenuation with
  | zero => exact ⟨volts, rfl, near.mono (by norm_num)⟩
  | minusTwenty =>
    have exact : (raw / (100 : Nat) / (10 : Nat) : ℚ) = raw / (stepsPerVolt .minusTwenty : Nat) := by
      rw [stepsPerVolt, div_div]
      norm_num
    have range := stepsPerVolt_range .minusTwenty
    have sized := moderate_quotient range.1 range.2 bits
    rw [← exact] at sized ⊢
    exact Number.div_near near (by norm_num) (by norm_num) (by norm_num) sized

theorem amplitude_recoded (attenuation : Attenuation) : ∃ volts,
    decodeAmplitude raw attenuation = .ok volts ∧ encodeAmplitude (.real volts) attenuation = .ok raw := by
  obtain ⟨volts, decoded, near⟩ := decodeAmplitude_near bits attenuation
  have range := stepsPerVolt_range attenuation
  refine ⟨volts, decoded, ?_⟩
  rw [encodeAmplitude_eq]
  exact rescaled bits near (by norm_num) range.1 range.2

omit bits

/-- Whole turns are taken from a whole angle, and it stays exact on the way. -/
theorem wrapAngle_whole {n : Int} {angle : Binary64} (whole : angle.Whole n) (bits : n.natAbs ≤ 2 ^ 48) :
    (wrapAngle angle).Whole (n % 360) := by
  have zero : Binary64.zero.Whole 0 := Binary64.whole_ofUnits_zero false
  have turn : fullTurn.Whole 360 := Binary64.whole_ofInt (by norm_num)
  have shifted := whole.sub zero (by omega)
  have least := Int.lt_tmod_of_pos (n - 0) (by norm_num : (0 : Int) < 360)
  have most := Int.tmod_lt_of_pos (n - 0) (by norm_num : (0 : Int) < 360)
  have rest := @Int.tmod_eq_emod (n - 0) 360
  have remainder := zero.add (shifted.rem turn (by norm_num)) (by omega)
  generalize hr : 0 + (n - 0).tmod 360 = r at remainder
  have same : n % 360 = if r < 0 then r + 360 else r := by
    subst hr
    split at rest <;> split <;> omega
  have low : -360 < r := by omega
  have high : r < 360 := by omega
  clear rest least most hr shifted
  unfold wrapAngle
  dsimp only
  generalize Binary64.zero.add ((angle.sub Binary64.zero).rem fullTurn) = x at remainder
  have raised : (repeatWhile (fun x => x.place.isLess Binary64.zero.place) (fun x => x.add fullTurn) 2
      x).Whole (n % 360) := by
    rw [same]
    have once := remainder.add turn (by omega)
    rw [repeatWhile, remainder.isLess_eq zero]
    by_cases negative : r < 0
    · rw [decide_eq_true negative, if_pos rfl, if_pos negative, repeatWhile, once.isLess_eq zero,
        decide_eq_false (by omega), if_neg Bool.false_ne_true]
      exact once
    · rw [decide_eq_false negative, if_neg Bool.false_ne_true, if_neg negative]
      exact remainder
  rw [repeatWhile, raised.isLess_eq turn, decide_eq_true (by omega)]
  exact raised

/-- A whole phase is sent as the angle it stands for. -/
theorem phase_recoded {n : Int} (bits : n.natAbs ≤ 2 ^ 48) : ∃ degrees,
    (Number.integer n).toReal = .ok degrees ∧ encodePhase (.real degrees) = .ok (n % 360) := by
  obtain ⟨degrees, converted, whole⟩ := @Number.toReal_whole n (by omega)
  refine ⟨degrees, converted, ?_⟩
  have wrapped := wrapAngle_whole whole bits
  have rounded : (Number.real (wrapAngle degrees)).roundAway = .ok (n % 360) := by
    refine Number.roundAway_near wrapped.isFinite ?_ (by omega)
    rw [wrapped.toRat_eq, sub_self, abs_zero]
    norm_num
  have again : Number.toReal (.real degrees) = .ok degrees := rfl
  rw [encodePhase_eq, normalizePhase_eq again, if_pos whole.isFinite, Except.bind, rounded]
  exact congrArg Except.ok (Int.emod_emod_of_dvd n (dvd_refl 360))

/-- What is read from this number on the line is encoded to the same number again; a phase to the angle
that it stands for. -/
structure Recodes (raw : Int) : Prop where
  frequency : ∃ hertz, decodeFrequency raw = .ok hertz ∧ encodeFrequency (.real hertz) = .ok raw
  amplitude : ∀ attenuation, ∃ volts, decodeAmplitude raw attenuation = .ok volts ∧
    encodeAmplitude (.real volts) attenuation = .ok raw
  dutyCycle : ∃ percent, decodeDutyCycle raw = .ok percent ∧ encodeDutyCycle (.real percent) = .ok raw
  phase : ∃ degrees, (Number.integer raw).toReal = .ok degrees ∧
    encodePhase (.real degrees) = .ok (raw % 360)

theorem recodes {raw : Int} (bits : raw.natAbs ≤ 2 ^ 48) : Recodes raw :=
  ⟨frequency_recoded bits, amplitude_recoded bits, dutyCycle_recoded bits, phase_recoded bits⟩

/-- An amplitude that is not zero is of a moderate size. -/
theorem amplitude_size {raw : Int} {attenuation : Attenuation} {volts : Binary64} (positive : 0 < raw)
    (bits : raw.natAbs ≤ 2 ^ 48) (near : volts.Near 2 (raw / stepsPerVolt attenuation)) :
    1 / 2000 ≤ volts.toRat ∧ volts.toRat ≤ 2 ^ 49 := by
  obtain ⟨least, most⟩ := stepsPerVolt_range attenuation
  have least : (1 : ℚ) ≤ stepsPerVolt attenuation := by exact_mod_cast least
  have most : (stepsPerVolt attenuation : ℚ) ≤ 1000 := by exact_mod_cast most
  have one : (1 : ℚ) ≤ raw := by exact_mod_cast positive
  have large : (raw : ℚ) ≤ 2 ^ 48 := by exact_mod_cast (by omega : raw ≤ 2 ^ 48)
  have low : 1 / 1000 ≤ (raw / stepsPerVolt attenuation : ℚ) := by
    rw [div_le_div_iff₀ (by norm_num) (by linarith)]
    linarith
  have high : (raw / stepsPerVolt attenuation : ℚ) ≤ 2 ^ 48 := by
    rw [div_le_iff₀ (by linarith)]
    nlinarith
  have part := Binary64.drift_le (by norm_num : 2 ≤ 4)
  have apart := near.2
  generalize (raw / stepsPerVolt attenuation : ℚ) = exact at low high apart
  rw [abs_of_pos (by linarith : (0 : ℚ) < exact)] at apart
  have small : exact * Binary64.drift 2 ≤ exact * (1 / 2 ^ 50) :=
    mul_le_mul_of_nonneg_left part (by linarith)
  rw [abs_le] at apart
  constructor <;> linarith

theorem decodeOffset_eq (raw : Int) (amplitude : Number) :
    decodeOffset raw amplitude =
      (amplitude.mul (.integer (raw - offsetBias))).bind (·.div (.integer (100 : Nat))) := rfl

theorem encodeOffsetPercent_eq (percent : Number) :
    encodeOffsetPercent percent = (percent.add (.integer offsetBias)).bind Number.roundAway := rfl

theorem steep_of_toRat {amplitude : Binary64} (nonzero : amplitude.toRat ≠ 0) :
    amplitude.place ≠ .units 0 := by
  intro flat
  have whole : amplitude.Whole 0 := by rwa [Whole, Int.zero_mul]
  exact nonzero whole.toRat_eq

section
variable {r : Int} {amplitude : Binary64} (finite : amplitude.isFinite = true)
  (least : 1 / 2000 ≤ amplitude.toRat) (most : amplitude.toRat ≤ 2 ^ 49) (range : r.natAbs ≤ 120)

include least most range

theorem moderate_share {part : ℚ} (above : 1 ≤ part) (below : part ≤ 100) :
    Moderate (amplitude.toRat * r / part) := by
  by_cases zero : r = 0
  · left
    rw [zero, Int.cast_zero, mul_zero, zero_div]
  · right
    have size : |(r : ℚ)| = (r.natAbs : Nat) := by rw [Nat.cast_natAbs, Int.cast_abs]
    have low : (1 : ℚ) ≤ (r.natAbs : Nat) := by exact_mod_cast Int.natAbs_pos.mpr zero
    have high : ((r.natAbs : Nat) : ℚ) ≤ 120 := by exact_mod_cast range
    rw [abs_div, abs_mul, size, abs_of_pos (by linarith : (0 : ℚ) < amplitude.toRat),
      abs_of_pos (by linarith : (0 : ℚ) < part)]
    constructor
    · rw [le_div_iff₀ (by linarith)]
      calc 1 / 2 ^ 64 * part ≤ 1 / 2 ^ 64 * 100 := by gcongr
        _ ≤ 1 / 2000 * 1 := by norm_num
        _ ≤ amplitude.toRat * (r.natAbs : Nat) := by gcongr
    · rw [div_le_iff₀ (by linarith)]
      calc amplitude.toRat * (r.natAbs : Nat) ≤ 2 ^ 49 * 120 := by gcongr
        _ ≤ 2 ^ 64 * 1 := by norm_num
        _ ≤ 2 ^ 64 * part := by gcongr

include finite

/-- An offset in volts is off by two roundings. -/
theorem decodeOffset_near : ∃ volts, decodeOffset (r + offsetBias) (.real amplitude) = .ok volts ∧
    volts.Near 2 (amplitude.toRat * r / (100 : Nat)) := by
  obtain ⟨y, converted, whole⟩ := @Number.toReal_whole r (by omega)
  have sized : ∀ part : ℚ, 1 ≤ part → part ≤ 100 → Moderate (amplitude.toRat * r / part) :=
    fun part above below => moderate_share least most range above below
  have product := (Binary64.near_self finite).mul whole.isFinite (by norm_num) (by
    have moderate := sized 1 (by norm_num) (by norm_num)
    rwa [div_one, ← whole.toRat_eq] at moderate)
  rw [whole.toRat_eq] at product
  obtain ⟨volts, divided, near⟩ := @Number.div_near _ 100 _ _ product (by norm_num) (by norm_num) (by norm_num)
    (by exact_mod_cast sized 100 (by norm_num) (by norm_num))
  refine ⟨volts, ?_, near⟩
  rw [decodeOffset_eq, Int.add_sub_cancel, Number.mul_eq converted, Except.bind]
  exact divided

omit most in
/-- The share of the amplitude that an offset was read from is found again, but for four roundings. -/
theorem offsetPercent_near {volts : Binary64} (near : volts.Near 2 (amplitude.toRat * r / (100 : Nat))) :
    ∃ percent, offsetPercent (.real volts) (.real amplitude) = .ok percent ∧ percent.Near 4 r := by
  have nonzero : amplitude.toRat ≠ 0 := by linarith
  have hundredth : amplitude.toRat * r / (100 : Nat) / amplitude.toRat = (r / (100 : Nat) : ℚ) := by
    rw [div_right_comm, mul_div_cancel_left₀ _ nonzero]
  have divided := near.div finite nonzero (by norm_num) (by
    rw [hundredth]
    exact moderate_quotient (by norm_num) (by norm_num) (by omega))
  rw [hundredth] at divided
  have hundred : hundred.Whole 100 := Binary64.whole_ofInt (by norm_num)
  have whole : (r / (100 : Nat) : ℚ) * Scaling.hundred.toRat = r := by
    rw [hundred.toRat_eq]
    exact div_mul_cancel₀ _ (by norm_num)
  have product := divided.mul hundred.isFinite (by norm_num) (by
    have moderate := @moderate_quotient r 1 (by norm_num) (by norm_num) (by omega)
    rwa [whole, ← div_one (r : ℚ), ← Nat.cast_one])
  rw [whole] at product
  have computed := @offsetPercent_eq (.real volts) volts amplitude rfl
  rw [if_neg (steep_of_toRat nonzero)] at computed
  exact ⟨_, computed, product⟩

omit finite least most

/-- A percentage near an integer is raised to the integer that it is sent as. -/
theorem encodeOffsetPercent_of_near {percent : Binary64} (near : percent.Near 4 r) :
    encodeOffsetPercent (.real percent) = .ok (r + offsetBias) := by
  obtain ⟨y, converted, whole⟩ := @Number.toReal_whole offsetBias (by norm_num [offsetBias])
  have bias : y.toRat = 120 := by
    rw [whole.toRat_eq, offsetBias]
    norm_num
  obtain ⟨size, close⟩ := Number.close_of_near near le_rfl range
  rw [Nat.cast_ofNat] at size close
  obtain ⟨low, high⟩ := abs_le.mp size
  obtain ⟨below, above⟩ := abs_le.mp close
  have bounded : |percent.toRat + y.toRat| ≤ 2 ^ 8 := by
    rw [bias, abs_le]
    constructor <;> linarith
  obtain ⟨finite, added⟩ := Binary64.add_near near.finite whole.isFinite (bounded.trans (by norm_num))
  have rounded := added.trans (mul_le_mul_of_nonneg_right bounded roundoff_nonneg)
  obtain ⟨down, up⟩ := abs_le.mp rounded
  rw [encodeOffsetPercent_eq, Number.add_eq converted, Except.bind]
  refine Number.roundAway_near finite ?_ (by rw [offsetBias]; omega)
  rw [bias, roundoff] at down up
  rw [Int.cast_add, offsetBias, Int.cast_ofNat, abs_le]
  constructor <;> linarith

omit range

/-- Only the roundings of a percentage at the limit itself can cross the limit. -/
theorem offsetPercent_inside {percent : Binary64} (near : percent.Near 4 r) (inside : r.natAbs ≤ 119) :
    Number.Between (.integer (-120)) 120 (.real percent) := by
  obtain ⟨size, close⟩ := Number.close_of_near near le_rfl inside
  rw [Nat.cast_ofNat] at size close
  obtain ⟨low, high⟩ := abs_le.mp size
  obtain ⟨below, above⟩ := abs_le.mp close
  refine @Number.between_of_toRat (-120) 120 _ near.finite ?_ ?_
  · rw [Int.cast_neg, Int.cast_ofNat]
    linarith
  · rw [Int.cast_ofNat]
    linarith

end

/-- An offset that was read is encoded to the number that it was read from, whatever the amplitude. Its
percentage is within the limits unless it is rounded at one of them. -/
theorem offset_recoded {level raw : Int} (attenuation : Attenuation) (positive : 0 < level)
    (bits : level ≤ 2 ^ 48) (least : 0 ≤ raw) (most : raw ≤ 240) : ∃ amplitude volts percent,
    decodeAmplitude level attenuation = .ok amplitude ∧
      decodeOffset raw (.real amplitude) = .ok volts ∧ volts.isFinite = true ∧
      offsetPercent (.real volts) (.real amplitude) = .ok percent ∧
      encodeOffsetPercent (.real percent) = .ok raw ∧
      (1 ≤ raw → raw ≤ 239 → Number.Between (.integer (-120)) 120 (.real percent)) := by
  obtain ⟨r, rfl⟩ : ∃ r, raw = r + offsetBias := ⟨raw - offsetBias, (Int.sub_add_cancel ..).symm⟩
  rw [offsetBias] at least most
  obtain ⟨amplitude, decoded, near⟩ := @decodeAmplitude_near level (by omega) attenuation
  obtain ⟨low, high⟩ := amplitude_size positive (by omega) near
  obtain ⟨volts, offset, close⟩ := @decodeOffset_near r _ near.finite low high (by omega)
  obtain ⟨percent, share, found⟩ := @offsetPercent_near r _ near.finite low (by omega) _ close
  have encoded := @encodeOffsetPercent_of_near r (by omega) _ found
  refine ⟨amplitude, volts, percent, decoded, offset, close.finite, share, encoded, ?_⟩
  intro above below
  rw [offsetBias] at above below
  exact offsetPercent_inside found (by omega)

end Scaling

end SignalGenerator
