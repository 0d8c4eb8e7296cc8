import Mathlib.Data.Int.ConditionallyCompleteOrder
import SignalGenerator.Proofs.NearestWhole

/-!
The order of what is sent. A number is sent as a function of its place on the line. Each step on the way, a
rounding or an omitted fraction, keeps the order of the magnitudes and keeps zero; with the sign it keeps the
order on the whole line, and does the same on both sides of zero.
-/

namespace SignalGenerator

open Binary64 (signed)
open Number (wholeOf)

/-- What a function of the magnitude does on both sides of zero. -/
def onBothSides (f : Nat → Nat) (place : Int) : Int := signed (decide (place < 0)) (f place.natAbs)

theorem onBothSides_mono {f : Nat → Nat} (mono : Monotone f) : Monotone (onBothSides f) := by
  intro first second le
  unfold onBothSides
  -- Below zero the larger magnitude is the smaller number.
  by_cases below : first < 0 <;> by_cases also : second < 0 <;>
    simp only [below, also, decide_true, decide_false, Binary64.signed_true, Binary64.signed_false]
  · have magnitudes : f second.natAbs ≤ f first.natAbs := mono (by omega)
    omega
  · omega
  · omega
  · have magnitudes : f first.natAbs ≤ f second.natAbs := mono (by omega)
    omega

section

variable {f : Nat → Nat} (zero : f 0 = 0)
include zero

theorem onBothSides_zero : onBothSides f 0 = 0 := by simp [onBothSides, zero]

theorem onBothSides_signed (negative : Bool) (units : Nat) :
    onBothSides f (signed negative units) = signed negative (f units) := by
  rw [onBothSides, Binary64.natAbs_signed]
  cases negative with
  | false => rw [Binary64.signed_false, decide_eq_false (by omega)]
  | true =>
    by_cases none : units = 0
    · rw [none, zero, Binary64.signed_zero, Binary64.signed_zero]
    · rw [Binary64.signed_true, decide_eq_true (by omega)]

theorem onBothSides_neg (place : Int) : onBothSides f (-place) = -onBothSides f place := by
  have same := Binary64.signed_natAbs place
  rw [← same, ← Binary64.signed_not, onBothSides_signed zero, onBothSides_signed zero, Binary64.signed_not]

end

theorem wholeOf_mono : Monotone wholeOf := fun _ _ le =>
  Nat.div_le_div_right (roundUnits_mono Nat.one_pos (Nat.add_le_add_right le _))

/-- A product of finite numbers is the exact product, rounded. -/
theorem Binary64.finite_mul (a b : Bool) {m n : Nat} (fitsX : Representable m) (fitsY : Representable n) :
    (finite a m fitsX).mul (.finite b n fitsY) = ofQuotient (a != b) (m * n) unitsPerOne := rfl

namespace Number

/-- Half of where the numbers end, in units. -/
def high : Nat := 2 ^ 52 * 2 ^ 2045

theorem representable_high : Representable high := representable_mul_two_pow (by norm_num) le_rfl

/-- Above `high` there are numbers for one half more. -/
theorem representable_sum_of_le {units : Nat} (below : units ≤ high) :
    Representable (roundUnits (units + 2 ^ 1073) 1) := by
  have next : Representable ((2 ^ 52 + 1) * 2 ^ 2045) := representable_mul_two_pow (by norm_num) le_rfl
  refine next.of_round Nat.one_pos ?_
  rw [Nat.mul_one, Nat.add_mul, Nat.one_mul]
  exact Nat.add_le_add below (Nat.pow_le_pow_right Nat.two_pos (by norm_num))

/-- A quotient up to `high` is rounded twice: to a number, and to a whole number. -/
theorem roundAway_ofQuotient {negative : Bool} {num den : Nat} (positive : 0 < den) (below : num ≤ high * den) :
    (Number.real (.ofQuotient negative num den)).roundAway =
      .ok (onBothSides wholeOf (signed negative (roundUnits num den))) := by
  obtain ⟨fits, rounded, le⟩ := Binary64.ofQuotient_bounded negative positive representable_high below
  rw [rounded, roundAway_finite (representable_sum_of_le le), onBothSides_signed wholeOf_zero]

end Number

namespace Scaling

/-- The magnitude of a multiple, as it is rounded. -/
def multipleOf (factor units : Nat) : Nat := roundUnits (units * (factor * unitsPerOne)) unitsPerOne

theorem multipleOf_mono (factor : Nat) : Monotone (multipleOf factor) :=
  fun _ _ le => roundUnits_mono unitsPerOne_pos (Nat.mul_le_mul_right _ le)

theorem multipleOf_zero (factor : Nat) : multipleOf factor 0 = 0 := by
  rw [multipleOf, Nat.zero_mul, roundUnits_zero unitsPerOne_pos]

/-- The magnitude next to a sum. -/
def nearest (units : Nat) : Nat := roundUnits units 1

theorem nearest_mono : Monotone nearest := fun _ _ le => roundUnits_mono Nat.one_pos le

theorem nearest_zero : nearest 0 = 0 := roundUnits_zero Nat.one_pos

/-- What is sent for the multiple of a number. -/
def scaledTo (factor : Nat) (place : Int) : Int := onBothSides wholeOf (onBothSides (multipleOf factor) place)

/-- What is sent for a number that is raised. -/
def raisedTo (bias : Nat) (place : Int) : Int :=
  onBothSides wholeOf (onBothSides nearest (place + (bias * unitsPerOne : Nat)))

theorem scaledTo_mono (factor : Nat) : Monotone (scaledTo factor) :=
  (onBothSides_mono wholeOf_mono).comp (onBothSides_mono (multipleOf_mono factor))

theorem raisedTo_mono (bias : Nat) : Monotone (raisedTo bias) := fun _ _ le =>
  onBothSides_mono wholeOf_mono (onBothSides_mono nearest_mono (Int.add_le_add_right le _))

theorem scaledTo_neg (factor : Nat) (place : Int) : scaledTo factor (-place) = -scaledTo factor place := by
  unfold scaledTo
  rw [onBothSides_neg (multipleOf_zero factor), onBothSides_neg Number.wholeOf_zero]

/-- Far above whatever can be set; its thousandfold is not past the last number. -/
def far : Nat := 10 ^ 304

theorem far_le : far * 1000 * unitsPerOne ≤ Number.high := by decide +kernel

/-- Numbers that are not far away are sent as the function of their place says. -/
def SentAs (encode : Number → Except ArithmeticFault Int) (sent : Int → Int) : Prop :=
  ∀ x : Binary64, x.Within far → ∃ place, (Number.real x).place = .units place ∧
    encode (.real x) = .ok (sent place)

theorem sentAs_scaled {factor : Nat} (few : factor ≤ 1000) :
    SentAs (fun x => (x.mul (.integer factor)).bind Number.roundAway) (scaledTo factor) := by
  rintro x ⟨negative, units, fits, rfl, below⟩
  refine ⟨_, Number.place_finite, ?_⟩
  have product : units * (factor * unitsPerOne) ≤ Number.high * unitsPerOne := by
    calc units * (factor * unitsPerOne) ≤ far * unitsPerOne * (1000 * unitsPerOne) :=
          Nat.mul_le_mul below (Nat.mul_le_mul_right _ few)
      _ = far * 1000 * unitsPerOne * unitsPerOne := by ring
      _ ≤ Number.high * unitsPerOne := Nat.mul_le_mul_right _ far_le
  have multiple := Binary64.finite_mul negative false fits (representable_whole (n := factor) (by omega))
  dsimp only
  rw [Number.mul_eq (Number.toReal_natural (by omega)), Except.bind, multiple, Bool.bne_false, scaledTo,
    onBothSides_signed (multipleOf_zero factor)]
  exact Number.roundAway_ofQuotient unitsPerOne_pos product

theorem sentAs_raised {bias : Nat} (few : bias ≤ 1000) :
    SentAs (fun x => (x.add (.integer bias)).bind Number.roundAway) (raisedTo bias) := by
  rintro x ⟨negative, units, fits, rfl, below⟩
  refine ⟨_, Number.place_finite, ?_⟩
  have sum : (signed negative units + (bias * unitsPerOne : Nat)).natAbs ≤ Number.high * 1 := by
    have magnitude := (Binary64.natAbs_signed negative units).trans_le below
    calc (signed negative units + (bias * unitsPerOne : Nat)).natAbs
        ≤ (signed negative units).natAbs + bias * unitsPerOne := Int.natAbs_add_le _ _
      _ ≤ far * unitsPerOne + far * unitsPerOne := by gcongr; exact few.trans (by decide)
      _ = far * 2 * unitsPerOne := by ring
      _ ≤ far * 1000 * unitsPerOne := by gcongr; norm_num
      _ ≤ Number.high * 1 := far_le.trans_eq (Nat.mul_one _).symm
  have opened := Binary64.finite_add negative false fits (representable_whole (n := bias) (by omega))
  rw [Binary64.signed_false] at opened
  dsimp only
  rw [Number.add_eq (Number.toReal_natural (by omega)), Except.bind, opened]
  unfold raisedTo
  generalize signed negative units + ((bias * unitsPerOne : Nat) : Int) = place at sum
  by_cases none : place = 0
  · rw [if_pos none, none, onBothSides_zero nearest_zero, Binary64.ofUnits_eq representable_zero,
      Number.roundAway_finite (Number.representable_sum_of_le (Nat.zero_le _)), Number.wholeOf_zero,
      Binary64.signed_zero, onBothSides_zero Number.wholeOf_zero]
  · rw [if_neg none]
    exact Number.roundAway_ofQuotient Nat.one_pos sum

/-- Both are sent, and the first as a number that is not larger. -/
def InOrder (first second : Except ArithmeticFault Int) : Prop :=
  ∃ m n, first = .ok m ∧ second = .ok n ∧ m ≤ n

/-- Both are sent, and the second as the negative of the first. -/
def Opposite (first second : Except ArithmeticFault Int) : Prop := ∃ n, first = .ok n ∧ second = .ok (-n)

section

variable {encode : Number → Except ArithmeticFault Int} {sent : Int → Int} (follows : SentAs encode sent)
  {x : Binary64} (withinX : x.Within far)

include follows withinX

theorem SentAs.inOrder (mono : Monotone sent) {y : Binary64} (withinY : y.Within far)
    (le : (Number.real x).isAtMost (.real y) = true) : InOrder (encode (.real x)) (encode (.real y)) := by
  obtain ⟨first, atX, sentX⟩ := follows x withinX
  obtain ⟨second, atY, sentY⟩ := follows y withinY
  exact ⟨_, _, sentX, sentY, mono ((Number.isAtMost_iff atX atY).mp le)⟩

theorem SentAs.opposite (odd : ∀ place, sent (-place) = -sent place) :
    Opposite (encode (.real x)) (encode (.real x.neg)) := by
  obtain ⟨place, atX, sentX⟩ := follows x withinX
  obtain ⟨mirrored, atNeg, sentNeg⟩ := follows x.neg withinX.neg
  obtain ⟨negative, units, fits, rfl, _⟩ := withinX
  have same : mirrored = -place := by
    cases Number.place_finite.symm.trans atX
    cases Number.place_finite.symm.trans atNeg
    exact Binary64.signed_not negative units
  rw [same, odd] at sentNeg
  exact ⟨_, sentX, sentNeg⟩

end

theorem sentAs_amplitude (attenuation : Attenuation) :
    SentAs (encodeAmplitude · attenuation) (scaledTo (stepsPerVolt attenuation)) := by
  simp only [encodeAmplitude_eq]
  exact sentAs_scaled (stepsPerVolt_range attenuation).2

/-- The encoders keep the order of the numbers, and all of them but the one of the offset do the same on both
sides of zero. -/
theorem encoders_keep_order {x y : Binary64} (withinX : x.Within (10 ^ 304)) (withinY : y.Within (10 ^ 304))
    (le : (Number.real x).isAtMost (.real y) = true) :
    InOrder (encodeFrequency (.real x)) (encodeFrequency (.real y)) ∧
      InOrder (encodeDutyCycle (.real x)) (encodeDutyCycle (.real y)) ∧
      InOrder (encodeOffsetPercent (.real x)) (encodeOffsetPercent (.real y)) ∧
      (∀ attenuation,
        InOrder (encodeAmplitude (.real x) attenuation) (encodeAmplitude (.real y) attenuation)) ∧
      Opposite (encodeFrequency (.real x)) (encodeFrequency (.real x.neg)) ∧
      Opposite (encodeDutyCycle (.real x)) (encodeDutyCycle (.real x.neg)) ∧
      ∀ attenuation,
        Opposite (encodeAmplitude (.real x) attenuation) (encodeAmplitude (.real x.neg) attenuation) := by
  have frequency : SentAs encodeFrequency (scaledTo 100) := sentAs_scaled (by norm_num)
  have dutyCycle : SentAs encodeDutyCycle (scaledTo 10) := sentAs_scaled (by norm_num)
  have offset : SentAs encodeOffsetPercent (raisedTo 120) := sentAs_raised (by norm_num)
  exact ⟨frequency.inOrder withinX (scaledTo_mono _) withinY le,
    dutyCycle.inOrder withinX (scaledTo_mono _) withinY le,
    offset.inOrder withinX (raisedTo_mono _) withinY le,
    fun attenuation => (sentAs_amplitude attenuation).inOrder withinX (scaledTo_mono _) withinY le,
    frequency.opposite withinX (scaledTo_neg _), dutyCycle.opposite withinX (scaledTo_neg _),
    fun attenuation => (sentAs_amplitude attenuation).opposite withinX (scaledTo_neg _)⟩

/-- A number below zero and one that is larger than whatever can be set. -/
theorem encoders_keep_order_across_zero :
    let x : Binary64 := .ofDecimal true 25 (-1)
    let y : Binary64 := .ofDecimal false 1 300
    x.Within (10 ^ 304) ∧ y.Within (10 ^ 304) ∧ (Number.real x).isAtMost (.real y) = true ∧
      encodeOffsetPercent (.real x) = .ok 118 ∧ encodeFrequency (.real x.neg) = .ok 250 ∧
      InOrder (encodeOffsetPercent (.real x)) (encodeOffsetPercent (.real y)) ∧
      Opposite (encodeFrequency (.real x)) (encodeFrequency (.real x.neg)) := by
  intro x y
  have withinX : x.Within (10 ^ 304) :=
    ⟨true, 5 * 2 ^ 1073, representable_halves (by norm_num), by decide +kernel, by decide +kernel⟩
  have withinY : y.Within (10 ^ 304) :=
    ⟨false, roundUnits (10 ^ 300 * unitsPerOne) 1, by decide +kernel, by decide +kernel, by decide +kernel⟩
  have le : (Number.real x).isAtMost (.real y) = true := by decide +kernel
  obtain ⟨_, _, offset, _, frequency, _⟩ := encoders_keep_order withinX withinY le
  exact ⟨withinX, withinY, le, by decide +kernel, by decide +kernel, offset, frequency⟩

end Scaling

end SignalGenerator
