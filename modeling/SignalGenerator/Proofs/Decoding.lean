import SignalGenerator.Counter.Function
import SignalGenerator.Proofs.Encoding

/-!
What registers are decoded to. A reply has room for 28 digits only, so whatever number stands in it, it
is far from infinity, and so is everything that is computed from it.
-/

namespace SignalGenerator

namespace Binary64

theorem Within.finite {bound : Nat} {x : Binary64} (within : x.Within bound) : x.isFinite = true := by
  obtain ⟨negative, units, fits, rfl, _⟩ := within
  rfl

theorem representable_moderate_square : Representable (moderate * moderate * unitsPerOne) := by
  have power : moderate * moderate * unitsPerOne = 1 * 2 ^ 1268 := by
    rw [moderate, unitsPerOne_eq, ← Nat.pow_add, ← Nat.pow_add, Nat.one_mul]
  rw [power]
  exact representable_mul_two_pow (by norm_num) (by norm_num)

/-- The product of two moderate numbers is finite. -/
theorem Within.mul {x y : Binary64} (atX : x.Within moderate) (atY : y.Within moderate) :
    (x.mul y).Within (moderate * moderate) := by
  obtain ⟨a, unitsX, fitsX, rfl, belowX⟩ := atX
  obtain ⟨b, unitsY, fitsY, rfl, belowY⟩ := atY
  have exact : unitsX * unitsY ≤ moderate * moderate * unitsPerOne * unitsPerOne := by
    calc unitsX * unitsY ≤ moderate * unitsPerOne * (moderate * unitsPerOne) :=
          Nat.mul_le_mul belowX belowY
      _ = moderate * moderate * unitsPerOne * unitsPerOne := by ring
  obtain ⟨fits, rounded, le⟩ :=
    ofQuotient_bounded (a != b) unitsPerOne_pos representable_moderate_square exact
  exact ⟨_, _, fits, rounded, le⟩

end Binary64

namespace Number

open Binary64 (Within moderate)

theorem toReal_within {n : Int} {x : Binary64} (short : n.natAbs < 10 ^ 29)
    (converted : (Number.integer n).toReal = .ok x) : x.Within moderate := by
  obtain ⟨units, fits, nearest, le⟩ := Binary64.ofQuotient_short (decide (n < 0)) Nat.one_pos short
  obtain ⟨same, _⟩ := finiteOr_eq_ok converted
  exact ⟨_, units, fits, same.symm.trans nearest, le⟩

theorem quotient_within {raw : Int} {den : Nat} {x : Binary64} (positive : 0 < den)
    (short : raw.natAbs < 10 ^ 28) (divided : quotient raw den = .ok x) : x.Within moderate := by
  have divisor : 0 < (den : Int).natAbs := Int.natAbs_pos.mpr (by omega)
  obtain ⟨units, fits, rounded, le⟩ := Binary64.ofQuotient_short
    (decide (raw < 0) != decide ((den : Int) < 0)) divisor (short.trans (by norm_num))
  unfold quotient at divided
  rw [if_neg (by omega), rounded] at divided
  exact ⟨_, units, fits, (Except.ok.inj divided).symm, le⟩

/-- To divide by a whole number brings a number nearer to zero. -/
theorem div_within {bound n : Nat} {x y : Binary64} (within : x.Within bound) (positive : 0 < n)
    (bits : n < 2 ^ 53) (divided : (Number.real x).div (.integer n) = .ok y) : y.Within bound := by
  obtain ⟨negative, units, fits, rfl, below⟩ := within
  have divisor := Nat.mul_pos positive unitsPerOne_pos
  have exact : units * unitsPerOne ≤ units * (n * unitsPerOne) :=
    Nat.mul_le_mul_left _ (Nat.le_mul_of_pos_left _ positive)
  obtain ⟨narrow, rounded, le⟩ := Binary64.ofQuotient_bounded (negative != false) divisor fits exact
  rw [div_natural positive bits, Binary64.div_finite divisor.ne', rounded] at divided
  cases Except.ok.inj divided
  exact ⟨_, _, narrow, rfl, le.trans below⟩

end Number

namespace Scaling

open Binary64 (Within moderate)

variable {raw : Int} (short : raw.natAbs < 10 ^ 28)

include short

theorem decodeFrequency_finite {hertz : Binary64} (decoded : decodeFrequency raw = .ok hertz) :
    hertz.isFinite = true :=
  (@Number.quotient_within raw 100 hertz (by norm_num) short decoded).finite

theorem decodeDutyCycle_finite {percent : Binary64} (decoded : decodeDutyCycle raw = .ok percent) :
    percent.isFinite = true :=
  (@Number.quotient_within raw 10 percent (by norm_num) short decoded).finite

theorem decodeAmplitude_within {attenuation : Attenuation} {volts : Binary64}
    (decoded : decodeAmplitude raw attenuation = .ok volts) : volts.Within moderate := by
  obtain ⟨hundredths, divided⟩ := @quotient_ok raw 100 (by norm_num) short
  have divided : Number.quotient raw 100 = .ok hundredths := divided
  have within := @Number.quotient_within raw 100 hundredths (by norm_num) short divided
  cases attenuation with
  | zero =>
    have opened : decodeAmplitude raw .zero = (Number.quotient raw 100).bind .ok := rfl
    rw [opened, divided] at decoded
    cases Except.ok.inj decoded
    exact within
  | minusTwenty =>
    have opened : decodeAmplitude raw .minusTwenty =
        (Number.quotient raw 100).bind fun volts => (Number.real volts).div (.integer (10 : Nat)) := rfl
    rw [opened, divided, Except.bind] at decoded
    exact @Number.div_within _ 10 _ _ within (by norm_num) (by norm_num) decoded

/-- An offset is computed from two replies: the share is in one and the amplitude is in the other. -/
theorem decodeOffset_finite {amplitude volts : Binary64} (within : amplitude.Within moderate)
    (decoded : decodeOffset raw amplitude = .ok volts) : volts.isFinite = true := by
  have narrow : (raw - offsetBias).natAbs < 10 ^ 29 := by
    unfold offsetBias
    omega
  obtain ⟨share, converted⟩ := Number.toReal_short narrow
  have opened : decodeOffset raw amplitude =
      ((Number.real amplitude).mul (.integer (raw - offsetBias))).bind fun product =>
        product.div (.integer (100 : Nat)) := rfl
  rw [opened, Number.mul_eq converted, Except.bind] at decoded
  have product := within.mul (Number.toReal_within narrow converted)
  exact (@Number.div_within _ 100 _ _ product (by norm_num) (by norm_num) decoded).finite

end Scaling

/-- Whatever is in the register of the counter, it is a finite value of every function. -/
theorem CounterFunction.decode_finite (function : CounterFunction) {raw : Int}
    (short : raw.natAbs < 10 ^ 28) :
    ∃ value, function.decode raw = .ok value ∧ value.isFinite = true := by
  have counted : ∀ function, function = .period ∨ function = .pulseWidth →
      ∃ value, CounterFunction.decode function raw = .ok value ∧ value.isFinite = true := by
    intro function times
    obtain ⟨count, converted⟩ := Number.toReal_short (short.trans (by norm_num))
    have unit : nanosecond.Within Binary64.moderate :=
      @Number.quotient_within 1 (10 ^ 9) _ (by norm_num) (by norm_num) (by decide +kernel)
    have within := (Number.toReal_within (short.trans (by norm_num)) converted).mul unit
    refine ⟨count.mul nanosecond, ?_, within.finite⟩
    rcases times with rfl | rfl <;> simp only [decode, converted] <;> rfl
  have divided : ∃ value, Number.quotient raw 10 = .ok value ∧ value.isFinite = true := by
    obtain ⟨value, decoded⟩ := Scaling.decodeDutyCycle_ok short
    exact ⟨value, decoded, Scaling.decodeDutyCycle_finite short decoded⟩
  cases function with
  | frequency => exact divided
  | period => exact counted _ (Or.inl rfl)
  | pulseWidth => exact counted _ (Or.inr rfl)
  | dutyCycle => exact divided

end SignalGenerator
