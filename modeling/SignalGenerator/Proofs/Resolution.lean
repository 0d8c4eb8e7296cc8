import SignalGenerator.Proofs.Recoding

/-!
How finely settings are resolved. A value that may be set is sent as the number on the line next to it, and
the value that this number is read as is off by half a step of the line, but for the roundings on the way.
-/

namespace SignalGenerator

namespace Binary64

/-- What a rounding can be off by where its result is small: more than a unit, and next to nothing. -/
def grain : ℚ := 1 / 2 ^ 200

/-- Finite, and not further from a value than the tolerance. -/
def Approximates (x : Binary64) (value tolerance : ℚ) : Prop :=
  x.isFinite = true ∧ |x.toRat - value| ≤ tolerance

theorem Approximates.mono {x : Binary64} {value tolerance wider : ℚ} (close : x.Approximates value tolerance)
    (le : tolerance ≤ wider) : x.Approximates value wider := ⟨close.1, close.2.trans le⟩

/-- What is near something bounded approximates what this is close to. -/
theorem Near.approximates {x : Binary64} {roundings : Nat} {exact value bound tolerance : ℚ}
    (near : x.Near roundings exact) (few : roundings ≤ 4) (sized : |exact| ≤ bound)
    (close : |exact - value| ≤ tolerance) : x.Approximates value (bound * (1 / 2 ^ 50) + tolerance) := by
  have drifted : |exact| * drift roundings ≤ bound * (1 / 2 ^ 50) :=
    mul_le_mul sized (drift_le few) (drift_nonneg roundings) ((abs_nonneg exact).trans sized)
  refine ⟨near.finite, ?_⟩
  calc |x.toRat - value| ≤ |x.toRat - exact| + |exact - value| := abs_sub_le ..
    _ ≤ bound * (1 / 2 ^ 50) + tolerance := add_le_add (near.2.trans drifted) close

/-- A quotient of units that is rounded to a finite number is off by a small part of it and a grain, whatever
its size. -/
theorem ofQuotient_off {negative : Bool} {num den : Nat} (positive : 0 < den)
    (finite : (ofQuotient negative num den).isFinite = true) :
    |(ofQuotient negative num den).toRat - sign negative * (num / (den * perOne))| ≤
      |sign negative * (num / (den * perOne))| * roundoff + grain := by
  have units := perOne_pos
  have divisor : (0 : ℚ) < den := by exact_mod_cast positive
  have off := @roundUnits_off num den positive
  have fits : Representable (roundUnits num den) := by
    by_contra wide
    rw [ofQuotient, ofUnits, dif_neg wide] at finite
    cases finite
  have rounded : ofQuotient negative num den = .finite negative (roundUnits num den) fits :=
    ofUnits_eq fits
  have apart : sign negative * (roundUnits num den / perOne) - sign negative * (num / (den * perOne)) =
      sign negative * ((roundUnits num den * den - num) / (den * perOne)) := by
    field_simp
  have exact : |sign negative * ((num : ℚ) / (den * perOne))| = num / (den * perOne) := by
    rw [abs_mul, abs_sign, one_mul, abs_of_nonneg (div_nonneg num.cast_nonneg (by positivity))]
  have unit : 1 / perOne ≤ grain := one_div_le_one_div_of_le (by norm_num) perOne_large
  rw [rounded, toRat_finite, apart, exact, abs_mul, abs_sign, one_mul, abs_div,
    abs_of_pos (mul_pos divisor units)]
  calc |(roundUnits num den * den - num : ℚ)| / (den * perOne)
      ≤ (num * roundoff + den) / (den * perOne) := by gcongr
    _ = num / (den * perOne) * roundoff + 1 / perOne := by field_simp
    _ ≤ num / (den * perOne) * roundoff + grain := by gcongr

variable {x y : Binary64} (finiteX : x.isFinite = true) (finiteY : y.isFinite = true)

include finiteX finiteY

theorem mul_off (finite : (x.mul y).isFinite = true) :
    |(x.mul y).toRat - x.toRat * y.toRat| ≤ |x.toRat * y.toRat| * roundoff + grain := by
  obtain ⟨a, m, fitsX, rfl⟩ := exists_finite finiteX
  obtain ⟨b, n, fitsY, rfl⟩ := exists_finite finiteY
  have off := ofQuotient_off unitsPerOne_pos finite
  rwa [product_exact a b fitsX fitsY] at off

theorem div_off (nonzero : y.toRat ≠ 0) (finite : (x.div y).isFinite = true) :
    |(x.div y).toRat - x.toRat / y.toRat| ≤ |x.toRat / y.toRat| * roundoff + grain := by
  obtain ⟨a, m, fitsX, rfl⟩ := exists_finite finiteX
  obtain ⟨b, n, fitsY, rfl⟩ := exists_finite finiteY
  have divisor := units_ne_zero nonzero
  rw [div_finite divisor] at finite ⊢
  have off := ofQuotient_off (Nat.pos_of_ne_zero divisor) finite
  rwa [quotient_exact a b fitsX fitsY] at off

omit finiteX finiteY

/-- What is multiplied to a finite number is finite itself, unless it is multiplied by nothing finite. -/
theorem finite_of_mul (finiteY : y.isFinite = true) (finite : (x.mul y).isFinite = true) :
    x.isFinite = true := by
  obtain ⟨b, n, fitsY, rfl⟩ := exists_finite finiteY
  cases x with
  | finite => rfl
  | nan => cases finite
  | infinite negative =>
    have opened : (Binary64.infinite negative).mul (.finite b n fitsY) =
        if n = 0 then .nan else .infinite (negative != b) := rfl
    rw [opened] at finite
    split at finite <;> cases finite

theorem finite_of_div (finiteY : y.isFinite = true) (finite : (x.div y).isFinite = true) :
    x.isFinite = true := by
  obtain ⟨b, n, fitsY, rfl⟩ := exists_finite finiteY
  cases x with
  | finite => rfl
  | nan => cases finite
  | infinite negative => cases finite

theorem abs_isFinite (x : Binary64) : x.abs.isFinite = x.isFinite := by cases x <;> rfl

theorem sign_abs (x : Binary64) : sign x.isNegative * x.abs.toRat = x.toRat := by
  cases x with
  | finite negative units fits =>
    have plain : sign false = 1 := rfl
    change sign negative * (finite false units fits).toRat = (finite negative units fits).toRat
    rw [toRat_finite, toRat_finite, plain, one_mul]
  | infinite negative => exact mul_zero _
  | nan => exact mul_zero _

theorem abs_toRat (x : Binary64) : x.abs.toRat = |x.toRat| := by
  have nonneg : 0 ≤ x.abs.toRat := by
    cases x with
    | finite negative units fits =>
      change (0 : ℚ) ≤ (units : Int) / perOne
      exact div_nonneg (by exact_mod_cast units.zero_le) perOne_pos.le
    | infinite negative => exact le_rfl
    | nan => exact le_rfl
  rw [← x.sign_abs, abs_mul, abs_sign, one_mul, abs_of_nonneg nonneg]

end Binary64

namespace Number

open Binary64 (toRat grain)

/-- Between two integers, with the value there. -/
theorem Between.toRat {low high : Int} {x : Binary64}
    (between : Number.Between (.integer low) (.integer high) (.real x)) :
    x.isFinite = true ∧ low ≤ x.toRat ∧ x.toRat ≤ high := by
  obtain ⟨negative, units, fits, rfl⟩ := between.finite
  obtain ⟨signed, placed, least, most⟩ := between_integers.mp between
  cases place_finite.symm.trans placed
  have positive := Binary64.perOne_pos
  refine ⟨rfl, ?_⟩
  rw [Binary64.toRat, le_div_iff₀ positive, div_le_iff₀ positive, Binary64.perOne_eq]
  generalize unitsPerOne = one at least most
  exact ⟨by exact_mod_cast least, by exact_mod_cast most⟩

/-- The integer below a number, by less than one. -/
theorem floorOf_off {x : Binary64} {n : Int} (floored : floorOf x = .ok n) :
    x.isFinite = true ∧ n ≤ x.toRat ∧ x.toRat < n + 1 := by
  cases x with
  | nan => cases floored
  | infinite negative => cases floored
  | finite negative units fits =>
    have same : Binary64.signed negative units / (unitsPerOne : Int) = n := Except.ok.inj floored
    have positive := Binary64.perOne_pos
    have least := Int.ediv_mul_le (Binary64.signed negative units) Binary64.unitsPerOne_pos_int.ne'
    have most := Int.lt_ediv_add_one_mul_self (Binary64.signed negative units) Binary64.unitsPerOne_pos_int
    rw [same] at least most
    refine ⟨rfl, ?_⟩
    rw [Binary64.toRat, le_div_iff₀ positive, div_lt_iff₀ positive, Binary64.perOne_eq]
    generalize unitsPerOne = one at least most
    exact ⟨by exact_mod_cast least, by exact_mod_cast most⟩

theorem half_toRat : half.toRat = 1 / 2 := by
  have positive : (2 ^ 1073 : ℚ) ≠ 0 := by positivity
  have halves : Binary64.perOne = 2 * 2 ^ 1073 := by
    rw [Binary64.perOne_eq, unitsPerOne_eq_halves, Nat.cast_mul, Nat.cast_pow, Nat.cast_ofNat]
  rw [half_eq, Binary64.toRat_finite, Binary64.sign, halves, Nat.one_mul, Nat.cast_pow, Nat.cast_ofNat]
  generalize (2 ^ 1073 : ℚ) = unit at positive
  field_simp
  norm_num

/-- A rounded number is the integer below its magnitude and one half, with its sign. -/
theorem floorOf_of_roundAway {x : Binary64} {n : Int} (rounded : (Number.real x).roundAway = .ok n) :
    ∃ whole, floorOf (x.abs.add half) = .ok whole ∧ n = if x.isNegative then -whole else whole := by
  have opened : (Number.real x).roundAway =
      (floorOf (x.abs.add half)).bind fun whole => .ok (if x.isNegative then -whole else whole) := rfl
  rw [opened] at rounded
  cases floored : floorOf (x.abs.add half) with
  | error fault =>
    rw [floored] at rounded
    cases rounded
  | ok whole =>
    rw [floored] at rounded
    exact ⟨whole, rfl, (Except.ok.inj rounded).symm⟩

theorem finite_of_roundAway {x : Binary64} {n : Int} (rounded : (Number.real x).roundAway = .ok n) :
    x.isFinite = true := by
  obtain ⟨whole, floored, _⟩ := floorOf_of_roundAway rounded
  have finite := (floorOf_off floored).1
  rw [half_eq] at finite
  cases x with
  | finite => rfl
  | infinite negative => cases finite
  | nan => cases finite

/-- A number that is rounded to an integer is off by one half, but for the error of the sum. -/
theorem roundAway_off_of {x : Binary64} {n : Int} {error : ℚ}
    (off : |(x.abs.add half).toRat - (|x.toRat| + 1 / 2)| ≤ error)
    (rounded : (Number.real x).roundAway = .ok n) : |n - x.toRat| ≤ 1 / 2 + error := by
  obtain ⟨whole, floored, rfl⟩ := floorOf_of_roundAway rounded
  obtain ⟨_, least, most⟩ := floorOf_off floored
  have signs : ((if x.isNegative then -whole else whole : Int) : ℚ) - x.toRat =
      Binary64.sign x.isNegative * (whole - |x.toRat|) := by
    rw [mul_sub, ← x.abs_toRat, x.sign_abs, Binary64.sign]
    cases x.isNegative <;> simp
  rw [signs, abs_mul, Binary64.abs_sign, one_mul, abs_le]
  rw [abs_le] at off
  constructor <;> linarith

/-- The sum is rounded once. -/
theorem roundAway_off {x : Binary64} {n : Int} (bounded : |x.toRat| ≤ 2 ^ 96)
    (rounded : (Number.real x).roundAway = .ok n) :
    |n - x.toRat| ≤ 1 / 2 + (|x.toRat| + 1 / 2) * roundoff := by
  have finite := x.abs_isFinite.trans (finite_of_roundAway rounded)
  have magnitude := abs_nonneg x.toRat
  have sum : x.abs.toRat + half.toRat = |x.toRat| + 1 / 2 := by rw [x.abs_toRat, half_toRat]
  have positive : |x.abs.toRat + half.toRat| = |x.toRat| + 1 / 2 := by
    rw [sum, abs_of_nonneg (by linarith)]
  have finiteHalf : half.isFinite = true := by
    rw [half_eq]
    rfl
  obtain ⟨_, near⟩ := Binary64.add_near finite finiteHalf (by
    rw [positive]
    linarith)
  rw [positive, sum] at near
  exact roundAway_off_of near rounded

end Number

namespace Scaling

open Number (Between)

/-- Sent as some number on the line, from which it is read back within a tolerance. -/
def Resolved (encoded : Except ArithmeticFault Int) (decode : Int → Except ArithmeticFault Binary64)
    (value tolerance : ℚ) : Prop :=
  ∃ raw back, encoded = .ok raw ∧ decode raw = .ok back ∧ back.Approximates value tolerance

theorem Resolved.mono {encoded : Except ArithmeticFault Int} {decode : Int → Except ArithmeticFault Binary64}
    {value tolerance wider : ℚ} (resolved : Resolved encoded decode value tolerance)
    (le : tolerance ≤ wider) : Resolved encoded decode value wider := by
  obtain ⟨raw, back, sent, decoded, close⟩ := resolved
  exact ⟨raw, back, sent, decoded, close.mono le⟩

section
variable {x : Binary64} {steps : Nat} (finite : x.isFinite = true) (positive : 0 < steps)
  (few : steps ≤ 1000) (bounded : |x.toRat * steps| ≤ 2 ^ 34)

include finite few bounded

/-- A value is sent as an integer that is half a step away from it, but for two roundings. -/
theorem scaled_off {raw : Int}
    (encoded : ((Number.real x).mul (.integer steps)).bind Number.roundAway = .ok raw) :
    |raw - x.toRat * steps| ≤ 1 / 2 + 1 / 2 ^ 16 := by
  obtain ⟨y, converted, whole⟩ := @Number.toReal_whole steps (by rw [Int.natAbs_natCast]; omega)
  rw [Number.mul_eq converted] at encoded
  have rounded : (Number.real (x.mul y)).roundAway = .ok raw := encoded
  have product := Binary64.mul_off finite whole.isFinite (Number.finite_of_roundAway rounded)
  rw [whole.toRat_eq, Int.cast_natCast] at product
  have small : |x.toRat * steps| * roundoff + Binary64.grain ≤ 1 / 2 ^ 18 := by
    have part := mul_le_mul_of_nonneg_right bounded roundoff_nonneg
    rw [roundoff] at part ⊢
    rw [Binary64.grain]
    linarith
  have close := product.trans small
  have size : |(x.mul y).toRat| ≤ 2 ^ 34 + 1 := by
    have apart := abs_sub_abs_le_abs_sub (x.mul y).toRat (x.toRat * steps)
    linarith
  have off := Number.roundAway_off (size.trans (by norm_num)) rounded
  have half : (|(x.mul y).toRat| + 1 / 2) * roundoff ≤ 1 / 2 ^ 18 := by
    rw [roundoff]
    linarith
  have total := abs_sub_le (raw : ℚ) (x.mul y).toRat (x.toRat * steps)
  linarith

include positive

/-- What is near the part of this integer is within half a step of the value, with room for the roundings
of both ways. -/
theorem resolved_of_near {raw : Int} {back : Binary64}
    (encoded : ((Number.real x).mul (.integer steps)).bind Number.roundAway = .ok raw)
    (near : back.Near 2 (raw / steps)) : back.Approximates x.toRat (51 / 100 / steps) := by
  have off := scaled_off finite few bounded encoded
  have scale : (0 : ℚ) < steps := by exact_mod_cast positive
  have size : |(raw / steps : ℚ)| ≤ 2 ^ 35 / steps := by
    have apart := abs_sub_abs_le_abs_sub (raw : ℚ) (x.toRat * steps)
    rw [abs_div, abs_of_pos scale]
    exact div_le_div_of_nonneg_right (by linarith) scale.le
  have sent : |(raw / steps : ℚ) - x.toRat| ≤ (1 / 2 + 1 / 2 ^ 16) / steps := by
    have apart : (raw / steps : ℚ) - x.toRat = (raw - x.toRat * steps) / steps := by field_simp
    rw [apart, abs_div, abs_of_pos scale]
    exact div_le_div_of_nonneg_right off scale.le
  refine (near.approximates (by norm_num) size sent).mono ?_
  rw [div_mul_eq_mul_div, ← add_div]
  exact div_le_div_of_nonneg_right (by norm_num) scale.le

end

/-- A value between zero and an integer, in steps. -/
theorem bounded_of_between {highest steps : Nat} {x : Binary64}
    (between : Between 0 (.integer highest) (.real x)) (bits : highest * steps ≤ 2 ^ 34) :
    x.isFinite = true ∧ |x.toRat * steps| ≤ 2 ^ 34 := by
  obtain ⟨finite, least, most⟩ := @Number.Between.toRat 0 highest x between
  have least : 0 ≤ x.toRat := by exact_mod_cast least
  have most : x.toRat ≤ highest := by exact_mod_cast most
  refine ⟨finite, ?_⟩
  rw [abs_of_nonneg (by positivity)]
  calc x.toRat * steps ≤ highest * steps := by gcongr
    _ ≤ 2 ^ 34 := by exact_mod_cast bits

theorem frequency_resolved {hertz : Binary64} (between : Between 0 (.integer (99000000 : Nat)) (.real hertz)) :
    Resolved (encodeFrequency (.real hertz)) decodeFrequency hertz.toRat (51 / 100 / (100 : Nat)) := by
  obtain ⟨raw, encoded, le⟩ := encodeFrequency_within between (by norm_num)
  obtain ⟨finite, bounded⟩ := @bounded_of_between _ 100 _ between (by norm_num)
  obtain ⟨back, decoded, near⟩ :=
    @Number.quotient_near raw 100 (by norm_num) (moderate_quotient (by norm_num) (by norm_num) (by omega))
  refine ⟨raw, back, encoded, decoded, ?_⟩
  exact resolved_of_near finite (by norm_num) (by norm_num) bounded encoded (near.mono (by norm_num))

theorem dutyCycle_resolved {percent : Binary64} (between : Between 0 100 (.real percent)) :
    Resolved (encodeDutyCycle (.real percent)) decodeDutyCycle percent.toRat (51 / 100 / (10 : Nat)) := by
  obtain ⟨raw, encoded, le⟩ := encodeDutyCycle_within between
  obtain ⟨finite, bounded⟩ := @bounded_of_between 100 10 _ between (by norm_num)
  obtain ⟨back, decoded, near⟩ :=
    @Number.quotient_near raw 10 (by norm_num) (moderate_quotient (by norm_num) (by norm_num) (by omega))
  refine ⟨raw, back, encoded, decoded, ?_⟩
  exact resolved_of_near finite (by norm_num) (by norm_num) bounded encoded (near.mono (by norm_num))

theorem amplitude_resolved {volts : Binary64} (between : Between 0 20 (.real volts))
    (attenuation : Attenuation) :
    Resolved (encodeAmplitude (.real volts) attenuation) (decodeAmplitude · attenuation) volts.toRat
      (51 / 100 / stepsPerVolt attenuation) := by
  obtain ⟨raw, encoded, le⟩ := encodeAmplitude_within between attenuation
  have highest := highestAmplitude_le attenuation
  obtain ⟨positive, few⟩ := stepsPerVolt_range attenuation
  obtain ⟨finite, bounded⟩ := @bounded_of_between 20 (stepsPerVolt attenuation) _ between (by omega)
  obtain ⟨back, decoded, near⟩ := @decodeAmplitude_near raw (by omega) attenuation
  refine ⟨raw, back, encoded, decoded, ?_⟩
  rw [encodeAmplitude_eq] at encoded
  exact resolved_of_near finite positive few bounded encoded near

/-- What is rounded to a bounded number is bounded itself. -/
theorem exact_le {computed exact bound : ℚ} (off : |computed - exact| ≤ |exact| * roundoff + Binary64.grain)
    (bounded : |computed| ≤ bound) (large : 1 ≤ bound) : |exact| ≤ bound * (1 + 1 / 2 ^ 50) := by
  have apart := abs_sub_abs_le_abs_sub exact computed
  rw [abs_sub_comm] at apart
  rw [roundoff, Binary64.grain] at off
  linarith

section
variable {offset amplitude percent : Binary64} (finite : amplitude.isFinite = true)
  (nonzero : amplitude.toRat ≠ 0)
  (share : offsetPercent (.real offset) (.real amplitude) = .ok percent)
  (between : Between (.integer (-120)) 120 (.real percent))

include finite nonzero share between

/-- A percentage within the limits is the exact one, but for two roundings. -/
theorem offsetPercent_off : offset.isFinite = true ∧
    |percent.toRat - offset.toRat / amplitude.toRat * 100| ≤ 1 / 2 ^ 40 := by
  obtain ⟨finitePercent, least, most⟩ := between.toRat
  have inside : |percent.toRat| ≤ 120 := by
    rw [abs_le]
    exact ⟨by exact_mod_cast least, by exact_mod_cast most⟩
  have computed := @offsetPercent_eq (.real offset) offset amplitude rfl
  rw [if_neg (steep_of_toRat nonzero), share] at computed
  obtain rfl := Except.ok.inj computed
  have whole : hundred.Whole 100 := Binary64.whole_ofInt (by norm_num)
  have finiteShare := Binary64.finite_of_mul whole.isFinite finitePercent
  have finiteOffset := Binary64.finite_of_div finite finiteShare
  have scaled := Binary64.mul_off finiteShare whole.isFinite finitePercent
  have divided := Binary64.div_off finiteOffset finite nonzero finiteShare
  rw [whole.toRat_eq, Int.cast_ofNat] at scaled
  generalize (offset.div amplitude).toRat = quotient at scaled divided
  generalize ((offset.div amplitude).mul hundred).toRat = product at inside scaled ⊢
  generalize offset.toRat / amplitude.toRat = exact at divided ⊢
  have sizeScaled := exact_le scaled inside (by norm_num)
  have size : |quotient| ≤ 2 := by
    rw [abs_mul, abs_of_pos (by norm_num : (0 : ℚ) < 100)] at sizeScaled
    linarith
  have sizeDivided := exact_le divided size (by norm_num)
  have first : |product - quotient * 100| ≤ 1 / 2 ^ 42 := by
    rw [roundoff, Binary64.grain] at scaled
    linarith
  have second : |quotient - exact| * 100 ≤ 1 / 2 ^ 42 := by
    rw [roundoff, Binary64.grain] at divided
    linarith
  have apart : quotient * 100 - exact * 100 = (quotient - exact) * 100 := by ring
  have total := abs_sub_le product (quotient * 100) (exact * 100)
  rw [apart, abs_mul, abs_of_pos (by norm_num : (0 : ℚ) < 100)] at total
  refine ⟨finiteOffset, ?_⟩
  linarith

omit finite nonzero share in
/-- A percentage is sent as an integer that is one half away from it, but for the roundings of two sums. -/
theorem biased_off {raw : Int} (encoded : encodeOffsetPercent (.real percent) = .ok raw) :
    |((raw - offsetBias : Int) : ℚ) - percent.toRat| ≤ 1 / 2 + 1 / 2 ^ 16 := by
  obtain ⟨finitePercent, least, most⟩ := between.toRat
  have least : -120 ≤ percent.toRat := by exact_mod_cast least
  have most : percent.toRat ≤ 120 := by exact_mod_cast most
  obtain ⟨y, converted, whole⟩ := @Number.toReal_whole offsetBias (by norm_num [offsetBias])
  have bias : y.toRat = 120 := by
    rw [whole.toRat_eq, offsetBias]
    norm_num
  rw [encodeOffsetPercent_eq, Number.add_eq converted] at encoded
  have rounded : (Number.real (percent.add y)).roundAway = .ok raw := encoded
  have bounded : |percent.toRat + y.toRat| ≤ 2 ^ 8 := by
    rw [bias, abs_le]
    constructor <;> linarith
  have added := (Binary64.add_near finitePercent whole.isFinite (bounded.trans (by norm_num))).2
  rw [bias] at added bounded
  have close : |(percent.add y).toRat - (percent.toRat + 120)| ≤ 1 / 2 ^ 40 := by
    rw [roundoff] at added
    linarith
  have size : |(percent.add y).toRat| ≤ 2 ^ 9 := by
    have apart := abs_sub_abs_le_abs_sub (percent.add y).toRat (percent.toRat + 120)
    linarith
  have off := Number.roundAway_off (size.trans (by norm_num)) rounded
  rw [roundoff] at off
  have total := abs_sub_le (raw : ℚ) (percent.add y).toRat (percent.toRat + 120)
  have apart : ((raw - offsetBias : Int) : ℚ) - percent.toRat = raw - (percent.toRat + 120) := by
    rw [offsetBias, Int.cast_sub, Int.cast_ofNat, sub_sub, add_comm]
  rw [apart]
  linarith

end

/-- A whole percentage of the amplitude, where the share of an offset is close to it. -/
theorem share_off {amplitude offset share : ℚ} {r : Int} (positive : 0 < amplitude)
    (close : |r - offset / amplitude * 100| ≤ share) :
    |amplitude * r / (100 : Nat) - offset| ≤ amplitude * (share / 100) := by
  have apart : amplitude * r / (100 : Nat) - offset = amplitude * ((r - offset / amplitude * 100) / 100) := by
    rw [Nat.cast_ofNat]
    field_simp
  rw [apart, abs_mul, abs_of_pos positive, abs_div, abs_of_pos (by norm_num : (0 : ℚ) < 100)]
  gcongr

/-- An offset is resolved in hundredths of the amplitude. -/
theorem offset_resolved {offset amplitude percent : Binary64} (finite : amplitude.isFinite = true)
    (least : 1 / 1000 ≤ amplitude.toRat) (most : amplitude.toRat ≤ 20)
    (share : offsetPercent (.real offset) (.real amplitude) = .ok percent)
    (between : Between (.integer (-120)) 120 (.real percent)) :
    offset.isFinite = true ∧ Resolved (encodeOffsetPercent (.real percent))
      (decodeOffset · (.real amplitude)) offset.toRat (51 / 100 / (100 : Nat) * amplitude.toRat) := by
  have positive : 0 < amplitude.toRat := by linarith
  obtain ⟨finiteOffset, exact⟩ := offsetPercent_off finite positive.ne' share between
  obtain ⟨n, encoded, le⟩ := encodeOffsetPercent_within between
  have biased := biased_off between encoded
  have range : ((n : Int) - offsetBias).natAbs ≤ 120 := by
    rw [offsetBias]
    omega
  obtain ⟨volts, decoded, near⟩ :=
    decodeOffset_near finite (by linarith) (most.trans (by norm_num)) range
  rw [Int.sub_add_cancel] at decoded
  refine ⟨finiteOffset, n, volts, encoded, decoded, ?_⟩
  generalize (n : Int) - offsetBias = r at biased range near
  have size : |amplitude.toRat * r / (100 : Nat)| ≤ amplitude.toRat * (120 / 100) := by
    have most : |(r : ℚ)| ≤ 120 := by
      rw [← Int.cast_abs, Int.abs_eq_natAbs, Int.cast_natCast]
      exact_mod_cast range
    rw [abs_div, abs_mul, abs_of_pos positive, Nat.abs_cast, Nat.cast_ofNat, mul_div_assoc]
    gcongr
  have shared : |(r : ℚ) - offset.toRat / amplitude.toRat * 100| ≤ 1 / 2 + 1 / 2 ^ 15 := by
    have total := abs_sub_le (r : ℚ) percent.toRat (offset.toRat / amplitude.toRat * 100)
    linarith
  refine (near.approximates (by norm_num) size (share_off positive shared)).mono ?_
  calc amplitude.toRat * (120 / 100) * (1 / 2 ^ 50) + amplitude.toRat * ((1 / 2 + 1 / 2 ^ 15) / 100)
      = (120 / 100 * (1 / 2 ^ 50) + (1 / 2 + 1 / 2 ^ 15) / 100) * amplitude.toRat := by ring
    _ ≤ 51 / 100 / (100 : Nat) * amplitude.toRat := by
        gcongr
        norm_num

/-- Every value that may be set is resolved to half a step of the line: to half a hundredth of a hertz, to half
a hundredth of a volt or half a thousandth where the output is attenuated, to half a tenth of a percent, and
for an offset to half a hundredth of the amplitude. The last digit is room for the roundings. -/
theorem settings_resolved :
    (∀ hertz : Binary64, Between 0 (.integer 99000000) (.real hertz) →
      Resolved (encodeFrequency (.real hertz)) decodeFrequency hertz.toRat 0.0051) ∧
    (∀ volts : Binary64, Between 0 20 (.real volts) →
      Resolved (encodeAmplitude (.real volts) .zero) (decodeAmplitude · .zero) volts.toRat 0.0051 ∧
      Resolved (encodeAmplitude (.real volts) .minusTwenty) (decodeAmplitude · .minusTwenty) volts.toRat
        0.00051) ∧
    (∀ percent : Binary64, Between 0 100 (.real percent) →
      Resolved (encodeDutyCycle (.real percent)) decodeDutyCycle percent.toRat 0.051) ∧
    (∀ offset amplitude percent : Binary64, amplitude.isFinite = true → 0.001 ≤ amplitude.toRat →
      amplitude.toRat ≤ 20 → offsetPercent (.real offset) (.real amplitude) = .ok percent →
      Between (.integer (-120)) 120 (.real percent) →
      offset.isFinite = true ∧ Resolved (encodeOffsetPercent (.real percent))
        (decodeOffset · (.real amplitude)) offset.toRat (0.0051 * amplitude.toRat)) := by
  refine ⟨?frequency, ?amplitude, ?dutyCycle, ?offset⟩
  case frequency =>
    intro hertz between
    exact (frequency_resolved between).mono (by norm_num)
  case amplitude =>
    intro volts between
    have resolved := amplitude_resolved between
    exact ⟨(resolved .zero).mono (by norm_num [stepsPerVolt]),
      (resolved .minusTwenty).mono (by norm_num [stepsPerVolt])⟩
  case dutyCycle =>
    intro percent between
    exact (dutyCycle_resolved between).mono (by norm_num)
  case offset =>
    intro offset amplitude percent finite least most share between
    have least : 1 / 1000 ≤ amplitude.toRat := le_trans (by norm_num) least
    obtain ⟨finiteOffset, resolved⟩ := offset_resolved finite least most share between
    refine ⟨finiteOffset, resolved.mono ?_⟩
    gcongr
    norm_num

/-- A value for each setting, none of them on the line itself. -/
theorem settings_resolved_between_steps :
    Resolved (encodeFrequency (.real (.ofDecimal false 12345678 (-4)))) decodeFrequency
      (Binary64.ofDecimal false 12345678 (-4)).toRat 0.0051 ∧
    Resolved (encodeAmplitude (.real (.ofDecimal false 123456 (-4))) .minusTwenty)
      (decodeAmplitude · .minusTwenty) (Binary64.ofDecimal false 123456 (-4)).toRat 0.00051 ∧
    Resolved (encodeDutyCycle (.real (.ofDecimal false 3333 (-2)))) decodeDutyCycle
      (Binary64.ofDecimal false 3333 (-2)).toRat 0.051 ∧
    ∃ percent, offsetPercent (.real (.ofDecimal true 1 0)) (.real (.ofDecimal false 3 0)) = .ok percent ∧
      Resolved (encodeOffsetPercent (.real percent)) (decodeOffset · (.real (.ofDecimal false 3 0)))
        (Binary64.ofDecimal true 1 0).toRat (0.0051 * (Binary64.ofDecimal false 3 0).toRat) := by
  obtain ⟨frequency, amplitude, dutyCycle, offset⟩ := settings_resolved
  have hertz : Between 0 (.integer 99000000) (.real (.ofDecimal false 12345678 (-4))) :=
    @Limits.between_of_errors "" "" "" _ 0 (.integer 99000000) _ _ (by decide +kernel) rfl rfl
  have three : Between 1 20 (.real (.ofDecimal false 3 0)) :=
    @Limits.between_of_errors "" "" "" _ 1 20 _ _ (by decide +kernel) rfl rfl
  obtain ⟨finite, least, most⟩ := three.toRat
  obtain ⟨percent, share, between⟩ : ∃ percent,
      offsetPercent (.real (.ofDecimal true 1 0)) (.real (.ofDecimal false 3 0)) = .ok percent ∧
        Between (.integer (-120)) 120 (.real percent) :=
    ⟨((Binary64.ofDecimal true 1 0).div (.ofDecimal false 3 0)).mul hundred, by decide +kernel,
      Limits.offsetPercent_between (by decide +kernel)⟩
  refine ⟨frequency _ hertz, (amplitude _ (Limits.amplitude_between (by decide +kernel))).2,
    dutyCycle _ (Limits.dutyCycle_between (by decide +kernel)), percent, share, ?_⟩
  refine (offset _ _ percent finite ?_ ?_ share between).2
  · exact le_trans (by norm_num) least
  · exact most.trans (by norm_num)

end Scaling

end SignalGenerator
