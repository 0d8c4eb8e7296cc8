import Mathlib.Tactic.Linarith
import SignalGenerator.Numeric.Binary64

/-!
Rounding to the nearest magnitude. A representable magnitude is never crossed: what is not above it
does not come out above it, and what is not below it does not come out below it. Every bound on a rounded
result follows from that.
-/

namespace SignalGenerator

theorem nearestEven_between (num den : Nat) :
    num / den ≤ nearestEven num den ∧ nearestEven num den ≤ num / den + 1 := by
  unfold nearestEven
  dsimp only
  split
  · omega
  split
  · omega
  · omega

theorem nearestEven_le {num den bound : Nat} (positive : 0 < den) (le : num ≤ bound * den) :
    nearestEven num den ≤ bound := by
  have quotient : num / den ≤ bound := Nat.div_le_of_le_mul (Nat.mul_comm bound den ▸ le)
  rcases Nat.lt_or_eq_of_le quotient with below | same
  · have between := (nearestEven_between num den).2
    omega
  · have whole : den * bound + num % den = num := same ▸ Nat.div_add_mod num den
    rw [Nat.mul_comm] at whole
    have rest : num % den = 0 := by omega
    unfold nearestEven
    simp only [rest, Nat.mul_zero, positive, if_true]
    exact quotient

theorem le_nearestEven {num den bound : Nat} (positive : 0 < den) (le : bound * den ≤ num) :
    bound ≤ nearestEven num den :=
  ((Nat.le_div_iff_mul_le positive).mpr le).trans (nearestEven_between num den).1

theorem nearestEven_mono {first second den : Nat} (le : first ≤ second) :
    nearestEven first den ≤ nearestEven second den := by
  rcases Nat.lt_or_eq_of_le (Nat.div_le_div_right le : first / den ≤ second / den) with apart | same
  · exact (nearestEven_between first den).2.trans (Nat.le_trans apart (nearestEven_between second den).1)
  · have wholeFirst := Nat.div_add_mod first den
    have wholeSecond := Nat.div_add_mod second den
    rw [same] at wholeFirst
    have rest : first % den ≤ second % den := by omega
    unfold nearestEven
    rw [same]
    dsimp only
    split_ifs <;> omega

/-- Less than half a step does not count, nor does half a step from an even count. -/
theorem nearestEven_of_rest {count step rest : Nat}
    (near : 2 * rest < step ∨ (2 * rest = step ∧ 0 < rest ∧ 2 ∣ count)) :
    nearestEven (step * count + rest) step = count := by
  have quotient : (step * count + rest) / step = count := by
    rw [Nat.mul_add_div (by omega), Nat.div_eq_of_lt (by omega), Nat.add_zero]
  have remainder : (step * count + rest) % step = rest := by
    rw [Nat.mul_add_mod, Nat.mod_eq_of_lt (by omega)]
  unfold nearestEven
  rw [quotient, remainder]
  dsimp only
  split_ifs <;> omega

theorem spacing_pos (units : Nat) : 0 < spacing units := Nat.two_pow_pos _

theorem log2_le_log2 {a b : Nat} (le : a ≤ b) : a.log2 ≤ b.log2 := by
  by_cases zero : a = 0
  · subst zero
    exact Nat.zero_le _
  · rw [Nat.le_log2 (by omega)]
    exact (Nat.log2_self_le zero).trans le

theorem spacing_dvd_spacing {a b : Nat} (le : a ≤ b) : spacing a ∣ spacing b :=
  Nat.pow_dvd_pow 2 (Nat.sub_le_sub_right (log2_le_log2 le) 52)

theorem spacing_dvd_two_pow (units : Nat) : spacing units ∣ 2 ^ units.log2 :=
  Nat.pow_dvd_pow 2 (Nat.sub_le _ _)

/-- A multiple of the spacing that is not below the number is not below what it is rounded to. -/
theorem roundUnits_le_multiple {num den bound : Nat} (positive : 0 < den)
    (grid : spacing (num / den) ∣ bound) (le : num ≤ bound * den) : roundUnits num den ≤ bound := by
  obtain ⟨count, rfl⟩ := grid
  unfold roundUnits
  dsimp only
  rw [Nat.mul_comm]
  refine Nat.mul_le_mul_left _ (nearestEven_le (Nat.mul_pos positive (spacing_pos _)) ?_)
  rwa [Nat.mul_comm den, ← Nat.mul_assoc, Nat.mul_comm count]

theorem multiple_le_roundUnits {num den bound : Nat} (positive : 0 < den)
    (grid : spacing (num / den) ∣ bound) (le : bound * den ≤ num) : bound ≤ roundUnits num den := by
  obtain ⟨count, rfl⟩ := grid
  unfold roundUnits
  dsimp only
  rw [Nat.mul_comm (nearestEven _ _)]
  refine Nat.mul_le_mul_left _ (le_nearestEven (Nat.mul_pos positive (spacing_pos _)) ?_)
  rwa [Nat.mul_comm den, ← Nat.mul_assoc, Nat.mul_comm count]

/-- A magnitude on its own grid that is not below a number is not below what it is rounded to. -/
theorem roundUnits_le {num den bound : Nat} (positive : 0 < den) (grid : spacing bound ∣ bound)
    (le : num ≤ bound * den) : roundUnits num den ≤ bound := by
  have quotient : num / den ≤ bound := Nat.div_le_of_le_mul (Nat.mul_comm bound den ▸ le)
  exact roundUnits_le_multiple positive ((spacing_dvd_spacing quotient).trans grid) le

/-- A magnitude on its own grid that is not above a number is not above what it is rounded to. When
the number has a larger logarithm, a power of two lies in between. -/
theorem le_roundUnits {num den bound : Nat} (positive : 0 < den) (grid : spacing bound ∣ bound)
    (le : bound * den ≤ num) : bound ≤ roundUnits num den := by
  have quotient : bound ≤ num / den := (Nat.le_div_iff_mul_le positive).mpr le
  by_cases same : bound.log2 = (num / den).log2
  · refine multiple_le_roundUnits positive ?_ le
    unfold spacing at grid ⊢
    rwa [← same]
  · have above := log2_le_log2 quotient
    have nonzero : num / den ≠ 0 := by
      intro zero
      rw [zero, Nat.log2_zero] at above same
      omega
    have power : 2 ^ (num / den).log2 * den ≤ num :=
      (Nat.mul_le_mul_right den (Nat.log2_self_le nonzero)).trans (Nat.div_mul_le_self num den)
    have rounded := multiple_le_roundUnits positive (spacing_dvd_two_pow _) power
    have below : bound < 2 ^ (bound.log2 + 1) := Nat.lt_log2_self
    have step : 2 ^ (bound.log2 + 1) ≤ 2 ^ (num / den).log2 :=
      Nat.pow_le_pow_right Nat.two_pos (by omega)
    omega

/-- What is on its own grid is rounded to itself. -/
theorem roundUnits_eq_self {units den : Nat} (positive : 0 < den) (grid : spacing units ∣ units) :
    roundUnits (units * den) den = units :=
  Nat.le_antisymm (roundUnits_le positive grid Nat.le.refl) (le_roundUnits positive grid Nat.le.refl)

theorem roundUnits_zero {den : Nat} (positive : 0 < den) : roundUnits 0 den = 0 :=
  Nat.le_zero.mp (roundUnits_le positive (Nat.dvd_zero _) (Nat.zero_le _))

/-- What is rounded to lies on its own grid. It is at most the next power of two, and below that power
the grid is the one of the number itself. -/
theorem spacing_dvd_roundUnits (num den : Nat) (positive : 0 < den) :
    spacing (roundUnits num den) ∣ roundUnits num den := by
  have multiple : spacing (num / den) ∣ roundUnits num den := Nat.dvd_mul_left _ _
  have next : roundUnits num den ≤ 2 ^ ((num / den).log2 + 1) := by
    refine roundUnits_le_multiple positive (Nat.pow_dvd_pow 2 (by omega)) ?_
    have quotient : num / den < 2 ^ ((num / den).log2 + 1) := Nat.lt_log2_self
    have bound : num < (num / den + 1) * den := Nat.lt_mul_of_div_lt (Nat.lt_succ_self _) positive
    exact bound.le.trans (Nat.mul_le_mul_right den quotient)
  rcases Nat.lt_or_eq_of_le next with below | same
  · by_cases zero : roundUnits num den = 0
    · rw [zero]
      exact Nat.dvd_zero _
    · have smaller := Nat.log2_lt zero |>.mpr below
      exact (Nat.pow_dvd_pow 2 (by omega)).trans multiple
  · rw [same]
    conv_lhs => rw [spacing, Nat.log2_two_pow]
    exact Nat.pow_dvd_pow 2 (by omega)

theorem Representable.grid {units : Nat} (representable : Representable units) :
    spacing units ∣ units := representable.2

theorem Representable.of_round {num den bound : Nat} (representable : Representable bound)
    (positive : 0 < den) (le : num ≤ bound * den) : Representable (roundUnits num den) :=
  ⟨(roundUnits_le positive representable.grid le).trans_lt representable.1,
    spacing_dvd_roundUnits num den positive⟩

/-- Below a magnitude that is no power of two there is none for one step of its grid. -/
theorem Representable.le_sub_spacing {units bound : Nat} (fits : Representable units)
    (grid : spacing bound ∣ bound) (inside : 2 ^ bound.log2 + spacing bound ≤ bound)
    (below : units < bound) : units ≤ bound - spacing bound := by
  by_cases same : units.log2 = bound.log2
  · obtain ⟨low, units_eq⟩ := fits.grid
    obtain ⟨high, bound_eq⟩ := grid
    rw [spacing, same, ← spacing] at units_eq
    generalize spacing bound = step at units_eq bound_eq inside ⊢
    rw [units_eq, bound_eq] at below ⊢
    have next := Nat.mul_le_mul_left step (Nat.lt_of_mul_lt_mul_left below)
    rw [Nat.mul_succ] at next
    omega
  · have smaller : units.log2 < bound.log2 :=
      Nat.lt_of_le_of_ne (log2_le_log2 below.le) same
    have power : 2 ^ (units.log2 + 1) ≤ 2 ^ bound.log2 := Nat.pow_le_pow_right Nat.two_pos smaller
    have size : units < 2 ^ (units.log2 + 1) := Nat.lt_log2_self
    omega

/-- 53 bits are representable at any place below the last one. -/
theorem representable_mul_two_pow {n k : Nat} (bits : n < 2 ^ 53) (place : k ≤ 2045) :
    Representable (n * 2 ^ k) := by
  by_cases zero : n = 0
  · subst zero
    rw [Nat.zero_mul]
    exact ⟨Nat.two_pow_pos _, Nat.dvd_zero _⟩
  have positive : 0 < 2 ^ k := Nat.two_pow_pos k
  constructor
  · have power : 2 ^ 53 * 2 ^ k ≤ 2 ^ 2098 := by
      rw [← Nat.pow_add]
      exact Nat.pow_le_pow_right Nat.two_pos (by omega)
    exact (Nat.mul_lt_mul_of_pos_right bits positive).trans_le power
  · have size : n * 2 ^ k < 2 ^ (53 + k) := by
      rw [Nat.pow_add]
      exact Nat.mul_lt_mul_of_pos_right bits positive
    have nonzero : n * 2 ^ k ≠ 0 := Nat.mul_ne_zero zero positive.ne'
    have log := (Nat.log2_lt nonzero).mpr size
    exact (Nat.pow_dvd_pow 2 (by omega)).trans (Nat.dvd_mul_left _ _)

/-- Rounding keeps the order. A number that lies between another one and what that one is rounded to is
rounded on the same grid. -/
theorem roundUnits_mono {first second den : Nat} (positive : 0 < den) (le : first ≤ second) :
    roundUnits first den ≤ roundUnits second den := by
  have grid := spacing_dvd_roundUnits second den positive
  by_cases crossed : first ≤ roundUnits second den * den
  · exact roundUnits_le positive grid crossed
  have below : roundUnits second den ≤ first / den := (Nat.le_div_iff_mul_le positive).mpr (by omega)
  have quotient : first / den ≤ second / den := Nat.div_le_div_right le
  have same : (first / den).log2 = (second / den).log2 := by
    refine Nat.le_antisymm (log2_le_log2 quotient) ?_
    by_cases zero : second / den = 0
    · rw [zero, Nat.log2_zero]
      exact Nat.zero_le _
    · have power : 2 ^ (second / den).log2 * den ≤ second :=
        (Nat.mul_le_mul_right den (Nat.log2_self_le zero)).trans (Nat.div_mul_le_self second den)
      have reached := (multiple_le_roundUnits positive (spacing_dvd_two_pow _) power).trans below
      exact (Nat.le_log2 (Nat.ne_of_gt ((Nat.two_pow_pos _).trans_le reached))).mpr reached
  unfold roundUnits spacing
  rw [same]
  exact Nat.mul_le_mul_right _ (nearestEven_mono le)

/-- What is left of a representable magnitude after taking whole multiples of another one away is
representable. -/
theorem representable_mod {x y : Nat} (atX : Representable x) (atY : Representable y) :
    Representable (x % y) := by
  refine ⟨(Nat.mod_le x y).trans_lt atX.1, ?_⟩
  have intoX : spacing (x % y) ∣ x := (spacing_dvd_spacing (Nat.mod_le x y)).trans atX.grid
  by_cases zero : y = 0
  · subst zero
    rwa [Nat.mod_zero] at intoX ⊢
  · have intoY : spacing (x % y) ∣ y :=
      (spacing_dvd_spacing (Nat.mod_lt x (Nat.pos_of_ne_zero zero)).le).trans atY.grid
    exact (Nat.dvd_mod_iff intoY).mpr intoX

end SignalGenerator
