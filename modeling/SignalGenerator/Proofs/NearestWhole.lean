import SignalGenerator.Proofs.Resolution
import SignalGenerator.Proofs.SentFrequency

/-!
Rounding to a whole number. One half is added to a magnitude and the fraction of the sum is dropped. The sum is
rounded itself, but that does not carry it to the next whole number, except for one magnitude: the number next
to one half, from below, is rounded to one.
-/

namespace SignalGenerator

/-- A multiple of a power of two is not closer than it to the next power of two. -/
theorem add_two_pow_le {units k : Nat} (multiple : 2 ^ k ∣ units) (least : k ≤ units.log2) :
    units + 2 ^ k ≤ 2 ^ (units.log2 + 1) := by
  have size : units < 2 ^ (units.log2 + 1) := Nat.lt_log2_self
  obtain ⟨next, same⟩ : 2 ^ k ∣ 2 ^ (units.log2 + 1) := Nat.pow_dvd_pow 2 (by omega)
  obtain ⟨count, rfl⟩ := multiple
  rw [same] at size ⊢
  exact Nat.mul_le_mul_left _ (Nat.lt_of_mul_lt_mul_left size)

/-- Below a power of two there is no magnitude for one step of the grid below it. -/
theorem Representable.add_le_two_pow {units k : Nat} (fits : Representable units)
    (below : units < 2 ^ (k + 53)) : units + 2 ^ k ≤ 2 ^ (k + 53) := by
  by_cases same : units.log2 = k + 52
  · have multiple : 2 ^ k ∣ units := by
      have grid := fits.grid
      rwa [spacing, same, Nat.add_sub_cancel] at grid
    have next := add_two_pow_le multiple (by omega)
    rwa [same] at next
  · have smaller : units.log2 < k + 52 := by
      by_cases zero : units = 0
      · subst zero
        rw [Nat.log2_zero]
        omega
      · have log := (Nat.log2_lt zero).mpr below
        omega
    have size : units < 2 ^ (units.log2 + 1) := Nat.lt_log2_self
    have power : 2 ^ (units.log2 + 1) ≤ 2 ^ (k + 52) := Nat.pow_le_pow_right Nat.two_pos smaller
    have step : 2 ^ k ≤ 2 ^ (k + 52) := Nat.pow_le_pow_right Nat.two_pos (by omega)
    have double : 2 ^ (k + 53) = 2 * 2 ^ (k + 52) := by rw [← Nat.pow_succ']
    omega

/-- The grid of a magnitude goes on up to the next power of two. -/
theorem grid_of_lt {units top : Nat} (below : units < 2 ^ (top.log2 + 1)) (multiple : spacing top ∣ units) :
    spacing units ∣ units := by
  by_cases zero : units = 0
  · exact zero ▸ Nat.dvd_zero _
  · have log : units.log2 < top.log2 + 1 := (Nat.log2_lt zero).mpr below
    exact (Nat.pow_dvd_pow 2 (by omega)).trans multiple

/-- An odd count of steps is no power of two, unless it is one step. -/
theorem odd_multiple_inside {n k : Nat} (positive : 0 < n) (bits : 2 * n + 1 < 2 ^ 53) :
    k < ((2 * n + 1) * 2 ^ k).log2 ∧ ((2 * n + 1) * 2 ^ k).log2 ≤ k + 52 ∧
      2 ^ ((2 * n + 1) * 2 ^ k).log2 + 2 ^ k ≤ (2 * n + 1) * 2 ^ k := by
  have unit : 0 < 2 ^ k := Nat.two_pow_pos k
  have nonzero : (2 * n + 1) * 2 ^ k ≠ 0 := Nat.mul_ne_zero (by omega) unit.ne'
  have least : k + 1 ≤ ((2 * n + 1) * 2 ^ k).log2 := by
    rw [Nat.le_log2 nonzero, Nat.pow_succ']
    exact Nat.mul_le_mul_right _ (by omega)
  have most : ((2 * n + 1) * 2 ^ k).log2 < 53 + k := by
    rw [Nat.log2_lt nonzero, Nat.pow_add]
    exact Nat.mul_lt_mul_of_pos_right bits unit
  refine ⟨least, by omega, ?_⟩
  obtain ⟨places, log⟩ := Nat.exists_eq_add_of_le least
  have power := Nat.log2_self_le nonzero
  have split : 2 ^ (k + 1 + places) = 2 * 2 ^ places * 2 ^ k := by ring
  rw [log, split] at power ⊢
  have even : 2 * 2 ^ places ≤ 2 * n + 1 := Nat.le_of_mul_le_mul_right power unit
  calc 2 * 2 ^ places * 2 ^ k + 2 ^ k = (2 * 2 ^ places + 1) * 2 ^ k := (Nat.succ_mul _ _).symm
    _ ≤ (2 * n + 1) * 2 ^ k := Nat.mul_le_mul_right _ (by omega)

/-- A sum with half a step that is below the next step but one is below it by a step of the grid, so that it is
not rounded up to it. -/
theorem Representable.add_half_lt {units n k : Nat} (fits : Representable units) (positive : 0 < n)
    (bits : 2 * n + 1 < 2 ^ 53) (place : k ≤ 2045) (below : units + 2 ^ k < (n + 1) * (2 * 2 ^ k)) :
    roundUnits (units + 2 ^ k) 1 < (n + 1) * (2 * 2 ^ k) := by
  obtain ⟨least, most, inside⟩ := @odd_multiple_inside n k positive bits
  have grid := (representable_mul_two_pow bits place).grid
  have next : (n + 1) * (2 * 2 ^ k) = (2 * n + 1) * 2 ^ k + 2 ^ k := by ring
  have fine : spacing ((2 * n + 1) * 2 ^ k) ∣ 2 ^ k := Nat.pow_dvd_pow 2 (by omega)
  have limit := add_two_pow_le (Nat.dvd_mul_left (2 ^ k) (2 * n + 1)) least.le
  have unit := Nat.two_pow_pos k
  generalize (2 * n + 1) * 2 ^ k = top at *
  have step := Nat.le_of_dvd unit fine
  have narrow := spacing_pos top
  have small := fits.le_sub_spacing grid ((Nat.add_le_add_left step _).trans inside) (by omega)
  have onGrid : spacing (top + 2 ^ k - spacing top) ∣ top + 2 ^ k - spacing top :=
    grid_of_lt (by omega) (Nat.dvd_sub (Nat.dvd_add grid fine) dvd_rfl)
  have rounded := @roundUnits_le (units + 2 ^ k) 1 _ Nat.one_pos onGrid (by omega)
  omega

namespace Number

open Binary64 (signed)

/-- The whole number that a magnitude is rounded to: one half is added to it, the sum is rounded, and the
fraction is dropped. -/
def wholeOf (units : Nat) : Nat := roundUnits (units + 2 ^ 1073) 1 / unitsPerOne

theorem wholeOf_zero : wholeOf 0 = 0 := by
  have whole := roundUnits_add_half (Nat.dvd_zero 2) (representable_whole (n := 0) (by norm_num))
  rwa [Nat.zero_mul] at whole

/-- A number is rounded to the whole number for its magnitude, with its sign, unless the sum is past the last
number. -/
theorem roundAway_finite {negative : Bool} {units : Nat} {fits : Representable units}
    (sum : Representable (roundUnits (units + 2 ^ 1073) 1)) :
    (Number.real (.finite negative units fits)).roundAway = .ok (signed negative (wholeOf units)) := by
  have floored : floorOf ((Binary64.finite false units fits).add half) = .ok (wholeOf units : Int) := by
    rw [half_eq, Binary64.add_positive (Nat.mul_pos Nat.one_pos (Nat.two_pow_pos 1073)), Nat.one_mul,
      Binary64.ofQuotient, Binary64.ofUnits_eq sum]
    rfl
  rw [roundAway_eq rfl floored]
  rfl

/-- The magnitude next to one half, from below. -/
def belowHalf : Nat := 2 ^ 1073 - 2 ^ 1020

/-- What lies below one half and is not next to it stays below one with one half added. -/
theorem add_half_lt_one {units : Nat} (fits : Representable units) (below : units < 2 ^ 1073)
    (other : units ≠ belowHalf) : roundUnits (units + 2 ^ 1073) 1 < unitsPerOne := by
  have next : units + 2 ^ 1020 ≤ 2 ^ 1073 := fits.add_le_two_pow below
  have strict : units < belowHalf := Nat.lt_of_le_of_ne (Nat.le_sub_of_add_le next) other
  have apart := fits.le_sub_spacing (by decide +kernel) (by decide +kernel) strict
  have sum : units + 2 ^ 1073 ≤ (unitsPerOne - 2 ^ 1021) * 1 := by
    refine (Nat.add_le_add_right apart _).trans ?_
    decide +kernel
  refine (roundUnits_le Nat.one_pos (by decide +kernel) sum).trans_lt ?_
  decide +kernel

theorem wholeOf_belowHalf : wholeOf belowHalf = 1 := by decide +kernel

/-- The error of the sum does not show in the whole number, but next to one half. -/
theorem wholeOf_eq {units : Nat} (fits : Representable units) (small : units < 2 ^ 51 * unitsPerOne)
    (other : units ≠ belowHalf) : wholeOf units = (units + 2 ^ 1073) / unitsPerOne := by
  have positive := unitsPerOne_pos
  have halves := unitsPerOne_eq_halves
  have bits : (units + 2 ^ 1073) / unitsPerOne < 2 ^ 52 := by
    rw [Nat.div_lt_iff_lt_mul positive]
    omega
  have least := Nat.div_mul_le_self (units + 2 ^ 1073) unitsPerOne
  have most : units + 2 ^ 1073 < ((units + 2 ^ 1073) / unitsPerOne + 1) * unitsPerOne :=
    Nat.lt_mul_of_div_lt (Nat.lt_succ_self _) positive
  unfold wholeOf
  generalize (units + 2 ^ 1073) / unitsPerOne = n at bits least most
  refine Nat.div_eq_of_lt_le ?_ ?_
  · have whole := representable_whole (n := n) (by omega)
    exact le_roundUnits Nat.one_pos whole.grid ((Nat.mul_one _).trans_le least)
  · by_cases zero : n = 0
    · subst zero
      rw [Nat.zero_add, Nat.one_mul] at most ⊢
      exact add_half_lt_one fits (by omega) other
    · rw [halves] at most ⊢
      exact fits.add_half_lt (Nat.pos_of_ne_zero zero) (by omega) (by norm_num) most

end Number

/-- The integer nearest to a value, and of two that are equally near the one that is farther from zero. -/
structure NearestAway (n : Int) (value : ℚ) : Prop where
  close : |n - value| ≤ 1 / 2
  away : |n - value| = 1 / 2 → |value| < |(n : ℚ)|

/-- What is left of a magnitude and one half without the fraction is the integer nearest to the magnitude. -/
theorem nearestAway_natural {whole : Nat} {value : ℚ} (nonneg : 0 ≤ value) (least : whole ≤ value + 1 / 2)
    (most : value + 1 / 2 < whole + 1) : NearestAway whole value := by
  have same : ((whole : Int) : ℚ) = whole := Int.cast_natCast whole
  constructor
  · rw [same]
    exact abs_le.mpr ⟨by linarith, by linarith⟩
  · rw [same, abs_of_nonneg nonneg, Nat.abs_cast]
    intro tie
    rcases (abs_eq (by norm_num)).mp tie with above | below <;> linarith

/-- A sign changes nothing. -/
theorem NearestAway.signed {n : Nat} {value : ℚ} (near : NearestAway n value) (negative : Bool) :
    NearestAway (Binary64.signed negative n) (Binary64.sign negative * value) := by
  obtain ⟨close, away⟩ := near
  rw [Int.cast_natCast] at close away
  have apart : |(Binary64.signed negative n : ℚ) - Binary64.sign negative * value| = |(n : ℚ) - value| := by
    rw [Binary64.cast_signed, ← mul_sub, abs_mul, Binary64.abs_sign, one_mul]
  constructor
  · rwa [apart]
  · rwa [apart, Binary64.cast_signed, abs_mul, abs_mul, Binary64.abs_sign, one_mul, one_mul]

namespace Number

open Binary64 (signed perOne toRat)

theorem wholeOf_nearest {units : Nat} (fits : Representable units) (small : units < 2 ^ 51 * unitsPerOne)
    (other : units ≠ belowHalf) : NearestAway (wholeOf units) (units / perOne) := by
  have positive := Binary64.perOne_pos
  have halves : (2 : ℚ) * (2 ^ 1073 : Nat) = perOne := by
    rw [Binary64.perOne_eq, unitsPerOne_eq_halves, Nat.cast_mul, Nat.cast_ofNat]
  have least := Nat.div_mul_le_self (units + 2 ^ 1073) unitsPerOne
  have most : units + 2 ^ 1073 < ((units + 2 ^ 1073) / unitsPerOne + 1) * unitsPerOne :=
    Nat.lt_mul_of_div_lt (Nat.lt_succ_self _) unitsPerOne_pos
  rw [wholeOf_eq fits small other]
  generalize (units + 2 ^ 1073) / unitsPerOne = whole at least most
  generalize 2 ^ 1073 = half at halves least most
  have least : (whole * perOne : ℚ) ≤ units + half := by
    rw [Binary64.perOne_eq]
    exact_mod_cast least
  have most : (units + half : ℚ) < (whole + 1) * perOne := by
    rw [Binary64.perOne_eq]
    exact_mod_cast most
  have sum : (units / perOne + 1 / 2 : ℚ) = (units + half) / perOne := by
    rw [add_div, add_right_inj, eq_div_iff positive.ne']
    linarith
  refine nearestAway_natural (div_nonneg units.cast_nonneg positive.le) ?_ ?_
  · rwa [sum, le_div_iff₀ positive]
  · rwa [sum, div_lt_iff₀ positive]

/-- The number next to one half, 0.49999999999999994. -/
theorem belowHalf_eq : (belowHalf / perOne : ℚ) = 1 / 2 - 1 / 2 ^ 54 := by
  have scaled : belowHalf * 2 ^ 54 + unitsPerOne = 2 ^ 53 * unitsPerOne := by
    have anywhere (k : Nat) : (2 ^ (k + 53) - 2 ^ k) * 2 ^ 54 + 2 ^ (k + 54) = 2 ^ 53 * 2 ^ (k + 54) := by
      have unit := Nat.two_pow_pos k
      rw [Nat.pow_add, Nat.pow_add]
      omega
    have here := anywhere 1020
    simp only [Nat.reduceAdd] at here
    rw [belowHalf, unitsPerOne_eq]
    exact here
  have positive := Binary64.perOne_pos
  have same := Binary64.perOne_eq
  generalize unitsPerOne = one at scaled same
  generalize belowHalf = units at scaled
  have scaled : (units * 2 ^ 54 + perOne : ℚ) = 2 ^ 53 * perOne := by
    rw [same]
    exact_mod_cast scaled
  rw [div_eq_iff positive.ne']
  linarith

theorem abs_toRat_finite {negative : Bool} {units : Nat} {fits : Representable units} :
    |(Binary64.finite negative units fits).toRat| = units / perOne := by
  rw [Binary64.toRat_finite, abs_mul, Binary64.abs_sign, one_mul,
    abs_of_nonneg (div_nonneg units.cast_nonneg Binary64.perOne_pos.le)]

theorem belowHalf_iff {negative : Bool} {units : Nat} {fits : Representable units} :
    |(Binary64.finite negative units fits).toRat| = 1 / 2 - 1 / 2 ^ 54 ↔ units = belowHalf := by
  rw [abs_toRat_finite, ← belowHalf_eq, div_left_inj' Binary64.perOne_pos.ne', Nat.cast_inj]

/-- The sum of a magnitude and one half is not past the last number where there is a whole number above it. -/
theorem representable_sum {units bound : Nat} (whole : Representable ((bound + 1) * unitsPerOne))
    (below : units ≤ bound * unitsPerOne) : Representable (roundUnits (units + 2 ^ 1073) 1) := by
  refine whole.of_round Nat.one_pos ?_
  have halves := unitsPerOne_eq_halves
  rw [Nat.mul_one, Nat.succ_mul]
  omega

/-- A number is rounded to the nearest integer, a half away from zero, unless it is the one next to one half,
which is rounded to one. -/
theorem nearest_away_iff {x : Binary64} (bounded : x.Within (10 ^ 10)) :
    ∃ n, (Number.real x).roundAway = .ok n ∧
      (NearestAway n x.toRat ↔ |x.toRat| ≠ 1 / 2 - 1 / 2 ^ 54) ∧
      (|x.toRat| = 1 / 2 - 1 / 2 ^ 54 → |n| = 1) := by
  obtain ⟨negative, units, fits, rfl, below⟩ := bounded
  have small : units < 2 ^ 51 * unitsPerOne :=
    below.trans_lt (Nat.mul_lt_mul_of_pos_right (by norm_num) unitsPerOne_pos)
  have sum := representable_sum (representable_whole (n := 10 ^ 10 + 1) (by norm_num)) below
  refine ⟨_, roundAway_finite sum, ?_⟩
  rw [ne_eq, belowHalf_iff, Binary64.toRat_finite]
  by_cases next : units = belowHalf
  · rw [next, wholeOf_belowHalf, belowHalf_eq]
    refine ⟨⟨fun near => ?_, fun other => absurd rfl other⟩, fun _ => ?_⟩
    · have close := near.1
      rw [Binary64.cast_signed, ← mul_sub, abs_mul, Binary64.abs_sign, one_mul] at close
      norm_num at close
    · cases negative <;> rfl
  · exact ⟨⟨fun _ => next, fun _ => (wholeOf_nearest fits small next).signed negative⟩,
      fun same => absurd same next⟩

/-- The half below minus two. -/
theorem nearest_away_minus_two_and_a_half :
    let x : Binary64 := .ofDecimal true 25 (-1)
    x.Within (10 ^ 10) ∧ (Number.real x).roundAway = .ok (-3) ∧ NearestAway (-3) x.toRat := by
  intro x
  have units : x = .finite true (5 * 2 ^ 1073) (representable_halves (by norm_num)) := by decide +kernel
  have within : x.Within (10 ^ 10) := ⟨_, _, _, units, by decide +kernel⟩
  have rounded : (Number.real x).roundAway = .ok (-3) := by decide +kernel
  obtain ⟨n, same, nearest, next⟩ := nearest_away_iff within
  cases Except.ok.inj (rounded.symm.trans same)
  refine ⟨within, rounded, nearest.mpr fun belowHalf => ?_⟩
  have one := next belowHalf
  norm_num at one

/-- The number next to one half is rounded to one and a phase of so many degrees is sent as one degree, although
zero is nearer. -/
theorem below_half_rounded_up :
    let x : Binary64 := .ofDecimal false 49999999999999994 (-17)
    x.text = "0.49999999999999994" ∧ x.Within (10 ^ 10) ∧ x.toRat = 1 / 2 - 1 / 2 ^ 54 ∧
      (Number.real x).roundAway = .ok 1 ∧ ¬ NearestAway 1 x.toRat ∧ NearestAway 0 x.toRat ∧
      Scaling.encodePhase (.real x) = .ok 1 := by
  intro x
  have units : ∃ fits, x = .finite false belowHalf fits := ⟨by decide +kernel, by decide +kernel⟩
  obtain ⟨fits, units⟩ := units
  have value : x.toRat = 1 / 2 - 1 / 2 ^ 54 := by
    rw [units, Binary64.toRat_finite, belowHalf_eq]
    norm_num [Binary64.sign]
  have within : x.Within (10 ^ 10) := ⟨_, _, _, units, by decide +kernel⟩
  refine ⟨by decide +kernel, within, value, by decide +kernel, ?_, ?_, by decide +kernel⟩
  · rw [value]
    rintro ⟨close, _⟩
    norm_num [abs_le] at close
  · rw [value]
    refine ⟨?_, fun tie => ?_⟩
    · norm_num [abs_le]
    · norm_num [abs_eq] at tie

end Number

end SignalGenerator
