import Mathlib.Algebra.Order.Field.Rat
import Mathlib.Tactic.FieldSimp
import Mathlib.Tactic.Positivity
import SignalGenerator.Proofs.Arithmetic

/-!
The error of arithmetic with numbers. Every operation is off by a small part of its exact result, and a few
operations in a row are off by a few times as much, so that a number that should be whole is rounded to
the right one.
-/

namespace SignalGenerator

/-- A rounding is off by this part of a number at most. -/
def roundoff : ℚ := 1 / 2 ^ 53

theorem roundoff_nonneg : 0 ≤ roundoff := by norm_num [roundoff]

/-- The nearest integer is not further away than one half. -/
theorem nearestEven_near {num den : Nat} (positive : 0 < den) :
    2 * (nearestEven num den * den) ≤ 2 * num + den ∧
      2 * num ≤ 2 * (nearestEven num den * den) + den := by
  have whole := Nat.div_add_mod num den
  have rest := Nat.mod_lt num positive
  rw [Nat.mul_comm] at whole
  unfold nearestEven
  dsimp only
  split
  · omega
  split
  · rw [Nat.add_mul, Nat.one_mul]
    omega
  · rcases Nat.mod_two_eq_zero_or_one (num / den) with even | odd
    · rw [even, Nat.add_zero]
      omega
    · rw [odd, Nat.add_mul, Nat.one_mul]
      omega

theorem roundUnits_near {num den : Nat} (positive : 0 < den) :
    2 * (roundUnits num den * den) ≤ 2 * num + spacing (num / den) * den ∧
      2 * num ≤ 2 * (roundUnits num den * den) + spacing (num / den) * den := by
  have near := @nearestEven_near num _ (Nat.mul_pos positive (spacing_pos (num / den)))
  have regroup : nearestEven num (den * spacing (num / den)) * (den * spacing (num / den)) =
      roundUnits num den * den := by
    unfold roundUnits
    ring
  rwa [regroup, Nat.mul_comm den] at near

/-- From 2^52 units on the spacing is a small part of a magnitude. -/
theorem spacing_mul_le {units : Nat} (normal : 2 ^ 52 ≤ units) : spacing units * 2 ^ 52 ≤ units := by
  have nonzero : units ≠ 0 := by omega
  have large : 52 ≤ units.log2 := (Nat.le_log2 nonzero).mpr normal
  have power : spacing units * 2 ^ 52 = 2 ^ units.log2 := by
    rw [spacing, Nat.pow_eq, ← Nat.pow_add, Nat.sub_add_cancel large]
  rw [power]
  exact Nat.log2_self_le nonzero

/-- The relative error of one rounding. -/
theorem roundUnits_relative {num den : Nat} (positive : 0 < den) (normal : 2 ^ 52 * den ≤ num) :
    |(roundUnits num den * den : ℚ) - num| ≤ num * roundoff := by
  obtain ⟨above, below⟩ := @roundUnits_near num den positive
  have quotient : 2 ^ 52 ≤ num / den := (Nat.le_div_iff_mul_le positive).mpr normal
  have part : spacing (num / den) * den * 2 ^ 52 ≤ num := by
    calc spacing (num / den) * den * 2 ^ 52 = spacing (num / den) * 2 ^ 52 * den := by ring
      _ ≤ num / den * den := Nat.mul_le_mul_right den (spacing_mul_le quotient)
      _ ≤ num := Nat.div_mul_le_self num den
  have above : 2 * (roundUnits num den * den : ℚ) ≤ 2 * num + spacing (num / den) * den := by
    exact_mod_cast above
  have below : 2 * (num : ℚ) ≤ 2 * (roundUnits num den * den) + spacing (num / den) * den := by
    exact_mod_cast below
  have part : (spacing (num / den) * den : ℚ) * 2 ^ 52 ≤ num := by exact_mod_cast part
  rw [abs_le, roundoff]
  constructor <;> linarith

/-- Below 2^52 units every magnitude is on the grid. -/
theorem spacing_eq_one {units : Nat} (small : units < 2 ^ 52) : spacing units = 1 := by
  by_cases zero : units = 0
  · subst zero
    rfl
  · have bits : units.log2 < 52 := (Nat.log2_lt zero).mpr small
    rw [spacing, Nat.sub_eq_zero_of_le bits.le]

/-- An integer is off by a small part of it in any case: where the grid is as fine as the integers, it is
not rounded at all. -/
theorem roundUnits_integer (num : Nat) : |(roundUnits num 1 : ℚ) - num| ≤ num * roundoff := by
  by_cases normal : 2 ^ 52 ≤ num
  · have relative := @roundUnits_relative num 1 Nat.one_pos (by rwa [Nat.mul_one])
    rwa [Nat.cast_one, mul_one] at relative
  · have fine := spacing_eq_one (Nat.lt_of_not_le normal)
    have self := @roundUnits_eq_self num 1 Nat.one_pos (fine ▸ Nat.one_dvd num)
    rw [Nat.mul_one] at self
    rw [self, sub_self, abs_zero]
    unfold roundoff
    positivity

/-- Any number is off by a small part of it and by less than a unit. -/
theorem roundUnits_off {num den : Nat} (positive : 0 < den) :
    |(roundUnits num den * den : ℚ) - num| ≤ num * roundoff + den := by
  have units : (0 : ℚ) ≤ den := den.cast_nonneg
  by_cases normal : 2 ^ 52 * den ≤ num
  · exact (roundUnits_relative positive normal).trans (le_add_of_nonneg_right units)
  · have small : num / den < 2 ^ 52 := (Nat.div_lt_iff_lt_mul positive).mpr (Nat.lt_of_not_le normal)
    obtain ⟨above, below⟩ := @roundUnits_near num den positive
    rw [spacing_eq_one small, Nat.one_mul] at above below
    have above : 2 * (roundUnits num den * den : ℚ) ≤ 2 * num + den := by exact_mod_cast above
    have below : 2 * (num : ℚ) ≤ 2 * (roundUnits num den * den) + den := by exact_mod_cast below
    have part : 0 ≤ num * roundoff := mul_nonneg num.cast_nonneg roundoff_nonneg
    rw [abs_le]
    constructor <;> linarith

namespace Binary64

/-- The number of units in one, as a divisor. It is only known to be large. -/
@[irreducible]
def perOne : ℚ := unitsPerOne

theorem perOne_eq : perOne = unitsPerOne := by rw [perOne]

/-- The number itself, where it is finite. -/
def toRat : Binary64 → ℚ
  | .finite negative units _ => (signed negative units : ℚ) / perOne
  | _ => 0

def sign (negative : Bool) : ℚ := if negative then -1 else 1

/-- What some roundings in a row add up to, as a part of the exact result. -/
def drift (roundings : Nat) : ℚ := (1 + roundoff) ^ roundings - 1

/-- Finite, and off from a value by a few roundings at most. -/
def Near (roundings : Nat) (value : ℚ) (x : Binary64) : Prop :=
  x.isFinite = true ∧ |x.toRat - value| ≤ |value| * drift roundings

/-- Zero, or neither so small that the grid is too coarse nor so large that it ends. -/
def Moderate (value : ℚ) : Prop := value = 0 ∨ (1 / 2 ^ 64 ≤ |value| ∧ |value| ≤ 2 ^ 64)

theorem unitsPerOne_pos_int : (0 : Int) < unitsPerOne := Int.natCast_pos.mpr unitsPerOne_pos

theorem perOne_large : 2 ^ 200 ≤ perOne := by
  have large : 2 ^ 200 ≤ unitsPerOne := by
    rw [unitsPerOne_eq]
    exact (Nat.pow_le_pow_iff_right (by norm_num)).mpr (by norm_num)
  rw [perOne_eq]
  calc (2 : ℚ) ^ 200 = ((2 ^ 200 : Nat) : ℚ) := by rw [Nat.cast_pow, Nat.cast_ofNat]
    _ ≤ unitsPerOne := Nat.cast_le.mpr large

theorem perOne_pos : 0 < perOne := lt_of_lt_of_le (by norm_num) perOne_large

theorem cast_signed (negative : Bool) (units : Nat) :
    ((signed negative units : Int) : ℚ) = sign negative * units := by
  cases negative <;> simp [sign]

theorem signed_natAbs (n : Int) : signed (decide (n < 0)) n.natAbs = n := by
  by_cases negative : n < 0
  · rw [decide_eq_true negative, signed_true]
    omega
  · rw [decide_eq_false negative, signed_false]
    omega

theorem natAbs_signed (negative : Bool) (units : Nat) : (signed negative units).natAbs = units := by
  cases negative <;> simp

theorem signed_mul (negative : Bool) (k one : Nat) :
    signed negative (k * one) = signed negative k * (one : Int) := by
  cases negative <;> simp

theorem signed_not (negative : Bool) (units : Nat) : signed (!negative) units = -signed negative units := by
  cases negative <;> simp

theorem signed_zero (negative : Bool) : signed negative 0 = 0 := by cases negative <;> rfl

theorem signed_tmod (negative : Bool) (units : Nat) (n : Int) :
    (signed negative units).tmod n = signed negative (units % n.natAbs) := by
  have plain : (units : Int).tmod n = (units % n.natAbs : Nat) := by
    rw [Int.ofNat_tmod]
    rcases n.natAbs_eq with same | same <;> conv_lhs => rw [same]
    rw [Int.tmod_neg]
  cases negative
  · exact plain
  · rw [signed_true, signed_true, Int.neg_tmod, plain]

theorem sign_natAbs (n : Int) : sign (decide (n < 0)) * (n.natAbs : Nat) = n := by
  rw [← cast_signed, signed_natAbs]

theorem sign_bne (a b : Bool) : sign (a != b) = sign a * sign b := by
  cases a <;> cases b <;> simp [sign]

theorem abs_sign (negative : Bool) : |sign negative| = 1 := by cases negative <;> simp [sign]

theorem toRat_finite {negative : Bool} {units : Nat} {fits : Representable units} :
    (finite negative units fits).toRat = sign negative * (units / perOne) := by
  rw [toRat, cast_signed, mul_div_assoc]

theorem drift_nonneg (roundings : Nat) : 0 ≤ drift roundings := by
  have one : 1 ≤ (1 + roundoff) ^ roundings := one_le_pow₀ (by norm_num [roundoff])
  unfold drift
  linarith

theorem drift_le {roundings : Nat} (few : roundings ≤ 4) : drift roundings ≤ 1 / 2 ^ 50 := by
  have most : (1 + roundoff) ^ roundings ≤ (1 + roundoff) ^ 4 :=
    pow_le_pow_right₀ (by norm_num [roundoff]) few
  have four : (1 + roundoff) ^ 4 - 1 ≤ 1 / 2 ^ 50 := by norm_num [roundoff]
  unfold drift
  linarith

/-- What a magnitude is rounded to is off by a part of it, where it is zero or the grid is fine enough. -/
theorem roundUnits_part {num den : Nat} (positive : 0 < den) (fine : num = 0 ∨ 2 ^ 52 * den ≤ num) :
    |(roundUnits num den / perOne : ℚ) - num / (den * perOne)| ≤ num / (den * perOne) * roundoff := by
  have divisor : (0 : ℚ) < den := by exact_mod_cast positive
  have units := perOne_pos
  have relative : |(roundUnits num den * den : ℚ) - num| ≤ num * roundoff := by
    rcases fine with rfl | normal
    · have none := roundUnits_le positive (Nat.dvd_zero (spacing 0)) (Nat.zero_le (0 * den))
      rw [Nat.le_zero.mp none]
      simp
    · exact roundUnits_relative positive normal
  have apart : (roundUnits num den / perOne : ℚ) - num / (den * perOne) =
      (roundUnits num den * den - num) / (den * perOne) := by
    field_simp
  rw [apart, abs_div, abs_of_pos (mul_pos divisor units), div_mul_eq_mul_div]
  exact div_le_div_of_nonneg_right relative (mul_pos divisor units).le

/-- A quotient of units that is a moderate value, but for a few roundings, is finite, and to round it is one
rounding more. -/
theorem ofQuotient_near {negative : Bool} {num den roundings : Nat} {value : ℚ} (positive : 0 < den)
    (few : roundings ≤ 4) (sized : Moderate value)
    (near : |sign negative * (num / (den * perOne)) - value| ≤ |value| * drift roundings) :
    Near (roundings + 1) value (ofQuotient negative num den) := by
  have units := perOne_pos
  have large := perOne_large
  have divisor : (0 : ℚ) < den := by exact_mod_cast positive
  have small := drift_le few
  have none := drift_nonneg roundings
  have part := @roundUnits_part num den positive
  have scaled : (num : ℚ) = num / (den * perOne) * (den * perOne) :=
    (div_mul_cancel₀ _ (mul_pos divisor units).ne').symm
  have nonneg : (0 : ℚ) ≤ num / (den * perOne) :=
    div_nonneg num.cast_nonneg (mul_pos divisor units).le
  generalize (num : ℚ) / (den * perOne) = exact at near part scaled nonneg
  have size : |sign negative * exact| = exact := by
    rw [abs_mul, abs_sign, one_mul, abs_of_nonneg nonneg]
  have least : |value| * (1 - drift roundings) ≤ exact := by
    have apart := abs_sub_abs_le_abs_sub value (sign negative * exact)
    rw [abs_sub_comm, size] at apart
    linarith
  have most : exact ≤ |value| * (1 + drift roundings) := by
    have apart := abs_sub_abs_le_abs_sub (sign negative * exact) value
    rw [size] at apart
    linarith
  -- a moderate quotient is zero or on a fine grid, and below the last magnitude
  have fine : num = 0 ∨ 2 ^ 52 * den ≤ num := by
    rcases sized with rfl | ⟨above, _⟩
    · left
      have zero : exact = 0 := by
        rw [abs_zero, zero_mul] at most
        exact le_antisymm most nonneg
      rw [zero, zero_mul] at scaled
      exact_mod_cast scaled
    · right
      have half : 1 / 2 ^ 65 ≤ exact := by nlinarith
      have enough : (2 ^ 52 * den : ℚ) ≤ num := by
        calc (2 ^ 52 * den : ℚ) ≤ 1 / 2 ^ 65 * (den * 2 ^ 200) := by linarith
          _ ≤ exact * (den * perOne) := by gcongr
          _ = num := scaled.symm
      exact_mod_cast enough
  have below : num ≤ Binary64.moderate * unitsPerOne * den := by
    have bounded : exact ≤ 2 ^ 97 := by
      rcases sized with rfl | ⟨_, above⟩
      · rw [abs_zero, zero_mul] at most
        linarith
      · nlinarith
    have enough : (num : ℚ) ≤ (Binary64.moderate * unitsPerOne * den : Nat) := by
      calc (num : ℚ) = exact * (den * perOne) := scaled
        _ ≤ 2 ^ 97 * (den * perOne) := by gcongr
        _ = (Binary64.moderate * unitsPerOne * den : Nat) := by
          rw [Nat.cast_mul, Nat.cast_mul, ← perOne_eq, Binary64.moderate, Nat.cast_pow]
          ring
    exact Nat.cast_le.mp enough
  obtain ⟨fits, rounded, _⟩ := ofQuotient_bounded negative positive representable_moderate below
  rw [rounded]
  refine ⟨rfl, ?_⟩
  rw [toRat_finite]
  calc |sign negative * (roundUnits num den / perOne) - value|
      = |sign negative * (roundUnits num den / perOne - exact) + (sign negative * exact - value)| := by
        ring_nf
    _ ≤ |sign negative * (roundUnits num den / perOne - exact)| + |sign negative * exact - value| :=
        abs_add_le _ _
    _ ≤ exact * roundoff + |value| * drift roundings := by
        rw [abs_mul, abs_sign, one_mul]
        exact add_le_add (part fine) near
    _ ≤ |value| * (1 + drift roundings) * roundoff + |value| * drift roundings := by
        exact add_le_add_left (mul_le_mul_of_nonneg_right most roundoff_nonneg) _
    _ = |value| * drift (roundings + 1) := by
        unfold drift
        ring

theorem exists_finite {x : Binary64} (finite : x.isFinite = true) :
    ∃ negative units fits, x = .finite negative units fits := by
  cases x with
  | finite negative units fits => exact ⟨negative, units, fits, rfl⟩
  | infinite => cases finite
  | nan => cases finite

/-- A sum of finite numbers is the exact sum, rounded. -/
theorem finite_add (a b : Bool) {m n : Nat} (fitsX : Representable m) (fitsY : Representable n) :
    (finite a m fitsX).add (.finite b n fitsY) =
      if signed a m + signed b n = 0 then ofUnits (a && b) 0
      else ofQuotient (decide (signed a m + signed b n < 0)) (signed a m + signed b n).natAbs 1 := rfl

theorem add_positive {m n : Nat} {fitsX : Representable m} {fitsY : Representable n} (positive : 0 < n) :
    (finite false m fitsX).add (.finite false n fitsY) = ofQuotient false (m + n) 1 := by
  rw [finite_add, signed_false, signed_false, if_neg (by omega), decide_eq_false (by omega),
    ← Int.natCast_add, Int.natAbs_natCast]

/-- The exact product of two finite numbers, as it is rounded. -/
theorem product_exact (a b : Bool) {m n : Nat} (fitsX : Representable m) (fitsY : Representable n) :
    sign (a != b) * (((m * n : Nat) : ℚ) / (unitsPerOne * perOne)) =
      (finite a m fitsX).toRat * (finite b n fitsY).toRat := by
  rw [toRat_finite, toRat_finite, sign_bne, Nat.cast_mul, ← perOne_eq, mul_div_mul_comm]
  ring

/-- The exact quotient of two finite numbers, as it is rounded. -/
theorem quotient_exact (a b : Bool) {m n : Nat} (fitsX : Representable m) (fitsY : Representable n) :
    sign (a != b) * (((m * unitsPerOne : Nat) : ℚ) / (n * perOne)) =
      (finite a m fitsX).toRat / (finite b n fitsY).toRat := by
  have units := perOne_pos.ne'
  have signs : sign b * sign b = 1 := by cases b <;> norm_num [sign]
  have inverse : (sign b)⁻¹ = sign b := inv_eq_of_mul_eq_one_right signs
  rw [toRat_finite, toRat_finite, sign_bne, Nat.cast_mul, ← perOne_eq, mul_div_mul_right _ _ units,
    mul_div_mul_comm, div_div_div_cancel_right₀ units, div_eq_mul_inv (sign a), inverse]

theorem units_ne_zero {negative : Bool} {units : Nat} {fits : Representable units}
    (nonzero : (finite negative units fits).toRat ≠ 0) : units ≠ 0 := by
  rintro rfl
  exact nonzero (by rw [toRat_finite, Nat.cast_zero, zero_div, mul_zero])

section
variable {roundings : Nat} {value : ℚ} {x y : Binary64}

theorem Near.finite (near : x.Near roundings value) : x.isFinite = true := near.1

/-- A finite number is near itself. -/
theorem near_self (finite : x.isFinite = true) : x.Near 0 x.toRat := by
  refine ⟨finite, ?_⟩
  rw [sub_self, abs_zero]
  exact mul_nonneg (abs_nonneg _) (drift_nonneg 0)

/-- To multiply by a number is one rounding more. -/
theorem Near.mul (near : x.Near roundings value) (finite : y.isFinite = true) (few : roundings ≤ 4)
    (sized : Moderate (value * y.toRat)) : (x.mul y).Near (roundings + 1) (value * y.toRat) := by
  obtain ⟨finiteX, close⟩ := near
  obtain ⟨a, m, fitsX, rfl⟩ := exists_finite finiteX
  obtain ⟨b, n, fitsY, rfl⟩ := exists_finite finite
  refine ofQuotient_near unitsPerOne_pos few sized ?_
  rw [product_exact a b fitsX fitsY, ← sub_mul, abs_mul, abs_mul, mul_right_comm]
  exact mul_le_mul_of_nonneg_right close (abs_nonneg _)

/-- To divide by a number is one rounding more. -/
theorem Near.div (near : x.Near roundings value) (finite : y.isFinite = true) (nonzero : y.toRat ≠ 0)
    (few : roundings ≤ 4) (sized : Moderate (value / y.toRat)) :
    (x.div y).Near (roundings + 1) (value / y.toRat) := by
  obtain ⟨finiteX, close⟩ := near
  obtain ⟨a, m, fitsX, rfl⟩ := exists_finite finiteX
  obtain ⟨b, n, fitsY, rfl⟩ := exists_finite finite
  have divisor := units_ne_zero nonzero
  rw [div_finite divisor]
  refine ofQuotient_near (Nat.pos_of_ne_zero divisor) few sized ?_
  rw [quotient_exact a b fitsX fitsY, ← sub_div, abs_div, abs_div, ← mul_div_right_comm]
  exact div_le_div_of_nonneg_right close (abs_nonneg _)

/-- A sum is off by one rounding of the exact sum in any case. -/
theorem add_near (finiteX : x.isFinite = true) (finiteY : y.isFinite = true)
    (bounded : |x.toRat + y.toRat| ≤ 2 ^ 97) : (x.add y).isFinite = true ∧
      |(x.add y).toRat - (x.toRat + y.toRat)| ≤ |x.toRat + y.toRat| * roundoff := by
  have units := perOne_pos
  obtain ⟨a, m, fitsX, rfl⟩ := exists_finite finiteX
  obtain ⟨b, n, fitsY, rfl⟩ := exists_finite finiteY
  have exact : (Binary64.finite a m fitsX).toRat + (Binary64.finite b n fitsY).toRat =
      ((signed a m + signed b n : Int) : ℚ) / perOne := by
    rw [toRat, toRat, Int.cast_add, add_div]
  rw [exact] at bounded ⊢
  rw [finite_add]
  generalize signed a m + signed b n = sum at bounded ⊢
  by_cases zero : sum = 0
  · rw [if_pos zero, zero, ofUnits_eq representable_zero]
    refine ⟨rfl, ?_⟩
    rw [toRat_finite]
    simp
  · rw [if_neg zero]
    have size : ((sum.natAbs : Nat) : ℚ) = |(sum : ℚ)| := by rw [Nat.cast_natAbs, Int.cast_abs]
    have below : sum.natAbs ≤ Binary64.moderate * unitsPerOne * 1 := by
      rw [abs_div, abs_of_pos units, div_le_iff₀ units, ← size] at bounded
      have enough : (sum.natAbs : ℚ) ≤ (Binary64.moderate * unitsPerOne * 1 : Nat) := by
        rw [Nat.mul_one, Nat.cast_mul, ← perOne_eq, Binary64.moderate, Nat.cast_pow]
        exact bounded
      exact Nat.cast_le.mp enough
    obtain ⟨fits, rounded, _⟩ :=
      ofQuotient_bounded (decide (sum < 0)) Nat.one_pos representable_moderate below
    rw [rounded]
    refine ⟨rfl, ?_⟩
    rw [toRat_finite, abs_div, abs_of_pos units, ← size]
    conv_lhs => rw [← sign_natAbs sum, mul_div_assoc, ← mul_sub, ← sub_div, abs_mul, abs_sign, one_mul,
      abs_div, abs_of_pos units]
    rw [div_mul_eq_mul_div]
    exact div_le_div_of_nonneg_right (roundUnits_integer _) units.le

/-- A whole number, at its exact place. -/
def Whole (n : Int) (x : Binary64) : Prop := x.place = .units (n * unitsPerOne)

variable {m n : Int}

theorem Whole.isFinite (whole : x.Whole n) : x.isFinite = true := by
  cases x with
  | finite => rfl
  | infinite negative => cases negative <;> cases whole
  | nan => cases whole

/-- A whole number in units, with its sign. The sign of zero is free. -/
theorem Whole.exists_units (whole : x.Whole n) : ∃ negative units fits,
    x = .finite negative units fits ∧ units = n.natAbs * unitsPerOne ∧ signed negative n.natAbs = n := by
  obtain ⟨negative, units, fits, rfl⟩ := exists_finite whole.isFinite
  have placed : signed negative units = n * unitsPerOne := Place.units.inj whole
  have magnitude : units = n.natAbs * unitsPerOne := by
    rw [← natAbs_signed negative units, placed, Int.natAbs_mul, Int.natAbs_natCast]
  rw [magnitude, signed_mul] at placed
  exact ⟨negative, units, fits, rfl, magnitude,
    Int.eq_of_mul_eq_mul_right unitsPerOne_pos_int.ne' placed⟩

theorem whole_finite {negative : Bool} {units k : Nat} {fits : Representable units}
    (magnitude : units = k * unitsPerOne) : (Binary64.finite negative units fits).Whole (signed negative k) := by
  rw [Whole, place, magnitude, signed_mul]

theorem Whole.toRat_eq (whole : x.Whole n) : x.toRat = n := by
  obtain ⟨negative, units, fits, rfl, magnitude, signs⟩ := whole.exists_units
  rw [toRat_finite, magnitude, Nat.cast_mul, ← perOne_eq, mul_div_cancel_right₀ _ perOne_pos.ne',
    ← cast_signed, signs]

theorem whole_ofInt (bits : n.natAbs < 2 ^ 53) : (ofInt n).Whole n := by
  have whole := @whole_finite (decide (n < 0)) _ n.natAbs (representable_whole bits) rfl
  rwa [← ofInt_eq bits, signed_natAbs] at whole

theorem whole_ofUnits_zero (negative : Bool) : (ofUnits negative 0).Whole 0 := by
  rw [ofUnits_eq representable_zero, Whole, place, signed_zero, Int.zero_mul]

/-- Whole numbers are added exactly. -/
theorem Whole.add (wholeX : x.Whole m) (wholeY : y.Whole n) (bits : (m + n).natAbs < 2 ^ 53) :
    (x.add y).Whole (m + n) := by
  obtain ⟨a, unitsX, fitsX, rfl⟩ := exists_finite wholeX.isFinite
  obtain ⟨b, unitsY, fitsY, rfl⟩ := exists_finite wholeY.isFinite
  have placedX : signed a unitsX = m * unitsPerOne := Place.units.inj wholeX
  have placedY : signed b unitsY = n * unitsPerOne := Place.units.inj wholeY
  have positive := unitsPerOne_pos_int
  rw [finite_add, placedX, placedY, ← Int.add_mul]
  by_cases zero : m + n = 0
  · rw [if_pos (by rw [zero, Int.zero_mul]), zero]
    exact whole_ofUnits_zero _
  · have below : (m + n) * (unitsPerOne : Int) < 0 ↔ m + n < 0 := by
      conv_lhs => rw [← Int.zero_mul (unitsPerOne : Int)]
      exact mul_lt_mul_iff_left₀ positive
    rw [if_neg (Int.mul_ne_zero zero positive.ne'), Int.natAbs_mul, Int.natAbs_natCast,
      decide_eq_decide.mpr below]
    exact whole_ofInt bits

theorem Whole.neg (whole : x.Whole n) : x.neg.Whole (-n) := by
  obtain ⟨negative, units, fits, rfl, magnitude, signs⟩ := whole.exists_units
  have flipped := @whole_finite (!negative) _ n.natAbs fits magnitude
  rwa [signed_not, signs] at flipped

theorem Whole.sub (wholeX : x.Whole m) (wholeY : y.Whole n) (bits : (m - n).natAbs < 2 ^ 53) :
    (x.sub y).Whole (m - n) := wholeX.add wholeY.neg bits

/-- The remainder has the sign of what was divided. -/
theorem Whole.rem (wholeX : x.Whole m) (wholeY : y.Whole n) (nonzero : n ≠ 0) :
    (x.rem y).Whole (m.tmod n) := by
  obtain ⟨a, unitsX, fitsX, rfl, magnitudeX, signs⟩ := wholeX.exists_units
  obtain ⟨b, unitsY, fitsY, rfl, magnitudeY, _⟩ := wholeY.exists_units
  have divisor : unitsY ≠ 0 := by
    rw [magnitudeY]
    exact Nat.mul_ne_zero (Int.natAbs_ne_zero.mpr nonzero) unitsPerOne_pos.ne'
  have rest : unitsX % unitsY = m.natAbs % n.natAbs * unitsPerOne := by
    rw [magnitudeX, magnitudeY, Nat.mul_mod_mul_right]
  have computed : (Binary64.finite a unitsX fitsX).rem (.finite b unitsY fitsY) =
      ofUnits a (unitsX % unitsY) := if_neg divisor
  rw [computed, ofUnits_eq (representable_mod fitsX fitsY)]
  have whole := @whole_finite a _ _ (representable_mod fitsX fitsY) rest
  rwa [← signed_tmod, signs] at whole

/-- Whole numbers are compared as integers. -/
theorem Whole.isLess_eq (wholeX : x.Whole m) (wholeY : y.Whole n) :
    x.place.isLess y.place = decide (m < n) := by
  rw [wholeX, wholeY, Place.isLess]
  exact decide_eq_decide.mpr (mul_lt_mul_iff_left₀ unitsPerOne_pos_int)

end

end Binary64

namespace Number

open Binary64 (Near Moderate perOne toRat)

/-- An integer of up to 53 bits is exact. -/
theorem toReal_whole {n : Int} (bits : n.natAbs < 2 ^ 53) :
    ∃ x, (Number.integer n).toReal = .ok x ∧ x.Whole n := by
  have whole := Binary64.whole_ofInt bits
  exact ⟨_, (toReal_integer n).trans (if_pos whole.isFinite), whole⟩

/-- A quotient of integers is rounded once. -/
theorem quotient_near {raw : Int} {den : Nat} (positive : 0 < den) (sized : Moderate (raw / den)) :
    ∃ x, quotient raw den = .ok x ∧ x.Near 1 (raw / den) := by
  have units := Binary64.perOne_pos
  have exact : Binary64.sign (decide (raw < 0) != decide ((den : Int) < 0)) *
      (((raw.natAbs * unitsPerOne : Nat) : ℚ) / (((den : Int).natAbs : Nat) * perOne)) = raw / den := by
    rw [show decide ((den : Int) < 0) = false by simp, Bool.bne_false, Int.natAbs_natCast, Nat.cast_mul,
      ← Binary64.perOne_eq, mul_div_mul_right _ _ units.ne', ← mul_div_assoc, Binary64.sign_natAbs]
  have near : (Binary64.ofQuotient (decide (raw < 0) != decide ((den : Int) < 0))
      (raw.natAbs * unitsPerOne) (den : Int).natAbs).Near 1 (raw / den) := by
    refine Binary64.ofQuotient_near (by omega) (by norm_num) sized ?_
    rw [exact, sub_self, abs_zero]
    exact mul_nonneg (abs_nonneg _) (Binary64.drift_nonneg 0)
  refine ⟨_, ?_, near⟩
  unfold quotient
  rw [if_neg (by omega), finiteOr, if_pos near.finite]

/-- With one half added, a magnitude near a whole number has this number before the point. The bounds one
quarter above and below the half are on the grid, and rounding does not cross them. -/
theorem floor_near {units n : Nat} {fits : Representable units} (bits : n ≤ 2 ^ 50)
    (least : 4 * n * unitsPerOne ≤ 4 * units + unitsPerOne)
    (most : 4 * units ≤ (4 * n + 1) * unitsPerOne) :
    floorOf ((Binary64.finite false units fits).add half) = .ok (n : Int) := by
  have quarter : Representable ((4 * n + 3) * 2 ^ 1072) :=
    representable_mul_two_pow (by omega) (by norm_num)
  have whole : Representable (n * unitsPerOne) := representable_whole (by omega)
  have quarters : unitsPerOne = 4 * 2 ^ 1072 := by
    rw [unitsPerOne_eq, show (4 : Nat) = 2 ^ 2 from rfl, ← Nat.pow_add]
  have halves : 1 * 2 ^ 1073 = 2 * 2 ^ 1072 := by rw [Nat.one_mul, ← Nat.pow_succ']
  have positive : 0 < 2 ^ 1072 := Nat.two_pow_pos _
  rw [half_eq, Binary64.add_positive (by omega)]
  generalize 1 * 2 ^ 1073 = one at halves
  generalize 2 ^ 1072 = unit at quarter quarters halves positive
  subst halves
  have above : units + 2 * unit ≤ (4 * n + 3) * unit * 1 := by
    rw [quarters] at most
    linarith
  have below : n * unitsPerOne * 1 ≤ units + 2 * unit := by
    rw [quarters] at least ⊢
    linarith
  obtain ⟨sum, rounded, le⟩ := Binary64.ofQuotient_bounded false Nat.one_pos quarter above
  have ge := le_roundUnits Nat.one_pos whole.grid below
  rw [rounded, floorOf_finite, Binary64.signed_false, ← Int.natCast_ediv]
  generalize unitsPerOne = one at quarters ge
  have next : roundUnits (units + 2 * unit) 1 < (n + 1) * one := by
    rw [quarters]
    linarith
  rw [Nat.div_eq_of_lt_le ge next]

/-- To be within one quarter of an integer, counted in units. -/
theorem quarter_units {n : Int} {negative : Bool} {units : Nat} {fits : Representable units}
    (near : |(Binary64.finite negative units fits).toRat - n| ≤ 1 / 4) :
    (4 * n - 1) * (unitsPerOne : Int) ≤ 4 * Binary64.signed negative units ∧
      4 * Binary64.signed negative units ≤ (4 * n + 1) * (unitsPerOne : Int) := by
  have positive := Binary64.perOne_pos
  have same := Binary64.perOne_eq
  rw [Binary64.toRat] at near
  generalize unitsPerOne = one at same ⊢
  generalize Binary64.signed negative units = signed at near ⊢
  rw [abs_sub_le_iff, sub_le_iff_le_add, sub_le_comm, div_le_iff₀ positive, le_div_iff₀ positive,
    same] at near
  obtain ⟨most, least⟩ := near
  have below : ((4 * n - 1) * (one : Int) : ℚ) ≤ 4 * signed := by
    rw [Int.cast_natCast]
    linarith
  have above : (4 * signed : ℚ) ≤ (4 * n + 1) * (one : Int) := by
    rw [Int.cast_natCast]
    linarith
  exact ⟨by exact_mod_cast below, by exact_mod_cast above⟩

/-- An integer near a number has the sign of the number, or it is zero, so that their magnitudes are near
each other. -/
theorem magnitude_near {n : Int} {negative : Bool} {units one : Nat} (positive : 0 < one)
    (least : (4 * n - 1) * (one : Int) ≤ 4 * Binary64.signed negative units)
    (most : 4 * Binary64.signed negative units ≤ (4 * n + 1) * (one : Int)) :
    ∃ k : Nat, n = Binary64.signed negative k ∧ 4 * k * one ≤ 4 * units + one ∧
      4 * units ≤ (4 * k + 1) * one := by
  have positive : (0 : Int) < one := by exact_mod_cast positive
  cases negative with
  | false =>
    rw [Binary64.signed_false] at least most
    have top : 0 ≤ 4 * n + 1 := nonneg_of_mul_nonneg_left ((by omega : (0 : Int) ≤ 4 * units).trans most) positive
    obtain ⟨k, rfl⟩ := Int.eq_ofNat_of_zero_le (by omega : 0 ≤ n)
    refine ⟨k, rfl, ?_, by exact_mod_cast most⟩
    have below : (4 * k * one : Int) ≤ 4 * units + one := by linarith
    exact_mod_cast below
  | true =>
    rw [Binary64.signed_true] at least most
    have bottom : 4 * n - 1 ≤ 0 := nonpos_of_mul_nonpos_left (least.trans (by omega)) positive
    obtain ⟨k, same⟩ := Int.eq_ofNat_of_zero_le (by omega : 0 ≤ -n)
    obtain rfl : n = -k := by omega
    refine ⟨k, rfl, ?_, ?_⟩
    · have below : (4 * k * one : Int) ≤ 4 * units + one := by linarith
      exact_mod_cast below
    · have above : (4 * units : Int) ≤ (4 * k + 1) * one := by linarith
      exact_mod_cast above

/-- A number that is within one quarter of an integer is rounded to it. -/
theorem roundAway_near {n : Int} {x : Binary64} (finite : x.isFinite = true)
    (near : |x.toRat - n| ≤ 1 / 4) (bits : n.natAbs ≤ 2 ^ 50) : (Number.real x).roundAway = .ok n := by
  cases x with
  | infinite => cases finite
  | nan => cases finite
  | finite negative units fits =>
    obtain ⟨least, most⟩ := quarter_units near
    obtain ⟨k, rfl, below, above⟩ := magnitude_near unitsPerOne_pos least most
    have bits : k ≤ 2 ^ 50 := by cases negative <;> simpa [Binary64.signed] using bits
    exact roundAway_eq rfl (floor_near bits below above)

/-- What is near an integer is off by a small part of any bound on the integer. -/
theorem close_of_near {roundings bound : Nat} {n : Int} {x : Binary64} (near : x.Near roundings n)
    (few : roundings ≤ 4) (size : n.natAbs ≤ bound) :
    |(n : ℚ)| ≤ bound ∧ |x.toRat - n| ≤ bound * (1 / 2 ^ 50) := by
  have size : |(n : ℚ)| ≤ bound := by
    rw [← Int.cast_abs, Int.abs_eq_natAbs, Int.cast_natCast]
    exact_mod_cast size
  refine ⟨size, near.2.trans ?_⟩
  exact mul_le_mul size (Binary64.drift_le few) (Binary64.drift_nonneg _) (Nat.cast_nonneg bound)

/-- A number that is near an integer of 48 bits is rounded to it. -/
theorem roundAway_of_near {roundings : Nat} {n : Int} {x : Binary64} (near : x.Near roundings n)
    (few : roundings ≤ 4) (bits : n.natAbs ≤ 2 ^ 48) : (Number.real x).roundAway = .ok n := by
  have close := (close_of_near near few bits).2
  exact roundAway_near near.finite (close.trans (by norm_num)) (bits.trans (by norm_num))

end Number

end SignalGenerator
