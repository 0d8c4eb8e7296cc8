import Mathlib.Tactic.Ring
import SignalGenerator.Numeric.Number
import SignalGenerator.Proofs.Rounding

/-!
Bounds on arithmetic with numbers. Numbers are compared by their exact places; a number between two
integers stays between the exact results of a multiplication, an addition or a rounding when these are
representable.
-/

namespace SignalGenerator

theorem unitsPerOne_eq : unitsPerOne = 2 ^ 1074 := Nat.pow_eq

theorem unitsPerOne_pos : 0 < unitsPerOne := by
  rw [unitsPerOne_eq]
  exact Nat.two_pow_pos _

theorem representable_zero : Representable 0 := ⟨Nat.two_pow_pos _, Nat.dvd_zero _⟩

/-- Whole numbers and halves of up to 53 bits are representable. -/
theorem representable_halves {n : Nat} (bits : n < 2 ^ 53) : Representable (n * 2 ^ 1073) :=
  representable_mul_two_pow bits (by norm_num)

theorem representable_half : Representable (1 * 2 ^ 1073) := representable_halves (by norm_num)

theorem representable_whole {n : Nat} (bits : n < 2 ^ 53) : Representable (n * unitsPerOne) := by
  rw [unitsPerOne_eq]
  exact representable_mul_two_pow bits (by norm_num)

namespace Binary64

theorem ofUnits_eq {negative : Bool} {units : Nat} (fits : Representable units) :
    ofUnits negative units = .finite negative units fits :=
  dif_pos fits

/-- A quotient that is not above a representable magnitude is finite, and it is not rounded above it
either. -/
theorem ofQuotient_bounded (negative : Bool) {num den bound : Nat} (positive : 0 < den)
    (representable : Representable bound) (le : num ≤ bound * den) :
    ∃ fits, ofQuotient negative num den = .finite negative (roundUnits num den) fits ∧
      roundUnits num den ≤ bound := by
  have fits := representable.of_round positive le
  exact ⟨fits, ofUnits_eq fits, roundUnits_le positive representable.grid le⟩

/-- What is not above this power of two, an integer of 29 digits for instance, is a long way from
infinity. -/
def moderate : Nat := 2 ^ 97

theorem representable_moderate : Representable (moderate * unitsPerOne) := by
  have power : moderate * unitsPerOne = 1 * 2 ^ 1171 := by
    rw [moderate, unitsPerOne_eq, ← Nat.pow_add, Nat.one_mul]
  rw [power]
  exact representable_mul_two_pow (by norm_num) (by norm_num)

/-- A quotient of a short numerator is finite, and moderate. -/
theorem ofQuotient_short (negative : Bool) {n den : Nat} (positive : 0 < den) (short : n < 10 ^ 29) :
    ∃ units fits, ofQuotient negative (n * unitsPerOne) den = .finite negative units fits ∧
      units ≤ moderate * unitsPerOne := by
  have size : n ≤ moderate := short.le.trans (by norm_num [moderate])
  have below : n * unitsPerOne ≤ moderate * unitsPerOne * den :=
    (Nat.mul_le_mul_right _ size).trans (Nat.le_mul_of_pos_right _ positive)
  obtain ⟨fits, rounded, le⟩ := ofQuotient_bounded negative positive representable_moderate below
  exact ⟨_, fits, rounded, le⟩

theorem ofInt_eq {n : Int} (bits : n.natAbs < 2 ^ 53) :
    ofInt n = .finite (decide (n < 0)) (n.natAbs * unitsPerOne) (representable_whole bits) := by
  have rounded : roundUnits (n.natAbs * unitsPerOne) 1 = n.natAbs * unitsPerOne := by
    have self := roundUnits_eq_self Nat.one_pos (representable_whole bits).grid
    rwa [Nat.mul_one] at self
  unfold ofInt ofQuotient
  rw [← ofUnits_eq (representable_whole bits), rounded]

@[simp] theorem signed_false (units : Nat) : signed false units = units := rfl

@[simp] theorem signed_true (units : Nat) : signed true units = -units := rfl

/-- A sum that is not above a representable magnitude is finite, and it is not rounded above it either.
It only has a minus sign where the exact sum is below zero or the result is zero. -/
theorem add_bounded {a b : Bool} {x y bound : Nat} (atX : Representable x) (atY : Representable y)
    (representable : Representable bound) (le : (signed a x + signed b y).natAbs ≤ bound) :
    ∃ negative units fits, add (.finite a x atX) (.finite b y atY) = .finite negative units fits ∧
      units ≤ bound ∧ (0 ≤ signed a x + signed b y → negative = true → units = 0) := by
  change ∃ negative units fits, (if signed a x + signed b y = 0 then ofUnits (a && b) 0
    else ofQuotient (decide (signed a x + signed b y < 0)) (signed a x + signed b y).natAbs 1) = _ ∧ _
  by_cases zero : signed a x + signed b y = 0
  · rw [if_pos zero]
    exact ⟨a && b, 0, representable_zero, ofUnits_eq _, Nat.zero_le _, fun _ _ => rfl⟩
  · rw [if_neg zero]
    have scaled : (signed a x + signed b y).natAbs ≤ bound * 1 := by rwa [Nat.mul_one]
    obtain ⟨fits, rounded, below⟩ := ofQuotient_bounded (decide (signed a x + signed b y < 0))
      Nat.one_pos representable scaled
    refine ⟨_, _, fits, rounded, below, ?_⟩
    intro nonnegative negative
    have strict := of_decide_eq_true negative
    omega

/-- A quotient of finite numbers is the exact quotient, rounded. -/
theorem div_finite {a b : Bool} {m n : Nat} {fitsX : Representable m} {fitsY : Representable n}
    (nonzero : n ≠ 0) :
    (finite a m fitsX).div (.finite b n fitsY) = ofQuotient (a != b) (m * unitsPerOne) n := if_neg nonzero

/-- Finite, with a magnitude up to a whole number. -/
def Within (bound : Nat) (x : Binary64) : Prop :=
  ∃ negative units fits, x = .finite negative units fits ∧ units ≤ bound * unitsPerOne

theorem Within.add {m n : Nat} {x y : Binary64} (withinX : x.Within m) (withinY : y.Within n)
    (bits : m + n < 2 ^ 53) : (x.add y).Within (m + n) := by
  obtain ⟨a, unitsX, fitsX, rfl, belowX⟩ := withinX
  obtain ⟨b, unitsY, fitsY, rfl, belowY⟩ := withinY
  have exact : (signed a unitsX + signed b unitsY).natAbs ≤ (m + n) * unitsPerOne := by
    have sum : (m + n) * unitsPerOne = m * unitsPerOne + n * unitsPerOne := Nat.add_mul ..
    cases a <;> cases b <;> simp only [signed_false, signed_true] <;> omega
  obtain ⟨negative, units, fits, added, le, _⟩ :=
    add_bounded fitsX fitsY (representable_whole bits) exact
  exact ⟨negative, units, fits, added, le⟩

theorem Within.neg {bound : Nat} {x : Binary64} (within : x.Within bound) : x.neg.Within bound := by
  obtain ⟨negative, units, fits, rfl, below⟩ := within
  exact ⟨!negative, units, fits, rfl, below⟩

theorem Within.sub {m n : Nat} {x y : Binary64} (withinX : x.Within m) (withinY : y.Within n)
    (bits : m + n < 2 ^ 53) : (x.sub y).Within (m + n) :=
  withinX.add withinY.neg bits

theorem within_ofInt {n : Nat} (bits : n < 2 ^ 53) : (ofInt n).Within n := by
  have narrow : (n : Int).natAbs < 2 ^ 53 := by rwa [Int.natAbs_natCast]
  exact ⟨_, _, _, ofInt_eq narrow, by rw [Int.natAbs_natCast]⟩

/-- What is left of a finite number after taking whole multiples of another one away is exact, and
smaller than that one. -/
theorem Within.rem {bound : Nat} {x y : Binary64} (finite : x.isFinite = true) (within : y.Within bound)
    (nonzero : y.place ≠ .units 0) : (x.rem y).Within bound := by
  obtain ⟨b, unitsY, fitsY, rfl, below⟩ := within
  cases x with
  | finite a unitsX fitsX =>
    have divisor : unitsY ≠ 0 := by
      rintro rfl
      exact nonzero (by cases b <;> rfl)
    have fits := representable_mod fitsX fitsY
    refine ⟨a, unitsX % unitsY, fits, ?_, ?_⟩
    · change (if unitsY = 0 then nan else ofUnits a (unitsX % unitsY)) = _
      rw [if_neg divisor, ofUnits_eq fits]
    · exact (Nat.mod_lt _ (Nat.pos_of_ne_zero divisor)).le.trans below
  | infinite negative => cases finite
  | nan => cases finite

end Binary64

theorem Number.half_eq : Number.half = .finite false (1 * 2 ^ 1073) representable_half := by
  decide +kernel

namespace Number

/-- Between two numbers by their exact places. What is infinite or not a number is between none. -/
def Between (lowest highest a : Number) : Prop :=
  ∃ low high units, lowest.place = .units low ∧ highest.place = .units high ∧
    a.place = .units units ∧ low ≤ units ∧ units ≤ high

/-- A number that can take part in binary64 arithmetic: an integer has to fit. -/
def Fits (a : Number) : Prop := ∃ x, a.toReal = .ok x

theorem between_integers {lowest highest : Int} {a : Number} :
    Between (.integer lowest) (.integer highest) a ↔
      ∃ units, a.place = .units units ∧ lowest * unitsPerOne ≤ units ∧
        units ≤ highest * unitsPerOne := by
  constructor
  · rintro ⟨_, _, units, ⟨⟩, ⟨⟩, placed, above, below⟩
    exact ⟨units, placed, above, below⟩
  · rintro ⟨units, placed, above, below⟩
    exact ⟨_, _, units, rfl, rfl, placed, above, below⟩

theorem integer_between {lowest highest n : Int} :
    Between (.integer lowest) (.integer highest) (.integer n) ↔ lowest ≤ n ∧ n ≤ highest := by
  have positive : (0 : Int) < unitsPerOne := by exact_mod_cast unitsPerOne_pos
  rw [between_integers]
  constructor
  · rintro ⟨_, ⟨⟩, above, below⟩
    exact ⟨le_of_mul_le_mul_right above positive, le_of_mul_le_mul_right below positive⟩
  · rintro ⟨above, below⟩
    exact ⟨_, rfl, Int.mul_le_mul_of_nonneg_right above positive.le,
      Int.mul_le_mul_of_nonneg_right below positive.le⟩

/-- A finite number from zero up to an integer has a magnitude up to it, and it is only negative as a
negative zero. -/
theorem finite_between {highest : Nat} {negative : Bool} {units : Nat}
    {representable : Representable units} :
    Between 0 (.integer highest) (.real (.finite negative units representable)) ↔
      units ≤ highest * unitsPerOne ∧ (negative = true → units = 0) := by
  have integers := @between_integers 0 highest (.real (.finite negative units representable))
  rw [show (0 : Number) = .integer 0 from rfl, integers]
  simp only [place, Binary64.place, Place.units.injEq, exists_eq_left', Binary64.signed, Int.zero_mul]
  cases negative with
  | false => simp only [Bool.false_eq_true, if_false, false_implies, and_true]; omega
  | true => simp only [if_true, forall_const]; omega

theorem Between.finite {lowest highest : Number} {x : Binary64} (between : Between lowest highest (.real x)) :
    ∃ negative units representable, x = .finite negative units representable := by
  obtain ⟨_, _, units, _, _, placed, _, _⟩ := between
  cases x with
  | finite negative magnitude representable => exact ⟨negative, magnitude, representable, rfl⟩
  | infinite negative => cases negative <;> cases placed
  | nan => cases placed

@[simp] theorem finiteOr_finite {fault : ArithmeticFault} {negative : Bool} {units : Nat}
    {representable : Representable units} :
    finiteOr fault (.finite negative units representable) =
      .ok (.finite negative units representable) := rfl

theorem toReal_integer (n : Int) :
    (Number.integer n).toReal = finiteOr .integerTooLarge (.ofInt n) := rfl

theorem toReal_natural {n : Nat} (bits : n < 2 ^ 53) :
    (Number.integer n).toReal = .ok (.finite false (n * unitsPerOne) (representable_whole bits)) := by
  have nearest := Binary64.ofInt_eq (n := n) (by rwa [Int.natAbs_natCast])
  simp only [Int.natAbs_natCast, show ¬ (n : Int) < 0 from by omega, decide_false] at nearest
  rw [toReal_integer, nearest, finiteOr_finite]

/-- A short integer fits. -/
theorem toReal_short {n : Int} (short : n.natAbs < 10 ^ 29) : Fits (.integer n) := by
  obtain ⟨units, fits, nearest, _⟩ := Binary64.ofQuotient_short (decide (n < 0)) Nat.one_pos short
  have whole : Binary64.ofInt n = .finite (decide (n < 0)) units fits := nearest
  exact ⟨_, by rw [toReal_integer, whole, finiteOr_finite]⟩

theorem mul_eq {x y : Binary64} {k : Int} (converted : (Number.integer k).toReal = .ok y) :
    (Number.real x).mul (.integer k) = .ok (.real (x.mul y)) := by
  simp only [mul]
  rw [converted]
  rfl

theorem add_eq {x y : Binary64} {k : Int} (converted : (Number.integer k).toReal = .ok y) :
    (Number.real x).add (.integer k) = .ok (.real (x.add y)) := by
  simp only [add]
  rw [converted]
  rfl

/-- A product with a positive integer stays below the exact product of the bounds. -/
theorem mul_within {highest k : Nat} {a : Number} (between : Between 0 (.integer highest) a)
    (factor : k < 2 ^ 53) (bits : highest * k < 2 ^ 53) :
    ∃ product, a.mul (.integer k) = .ok product ∧
      Between 0 (.integer (highest * k : Nat)) product := by
  cases a with
  | integer n =>
    have inside : 0 ≤ n ∧ n ≤ highest := integer_between.mp between
    refine ⟨.integer (n * k), rfl, integer_between.mpr ⟨?_, ?_⟩⟩
    · exact Int.mul_nonneg inside.1 (Int.natCast_nonneg k)
    · rw [Int.natCast_mul]
      exact Int.mul_le_mul_of_nonneg_right inside.2 (Int.natCast_nonneg k)
  | real x =>
    obtain ⟨negative, units, representable, rfl⟩ := between.finite
    obtain ⟨below, sign⟩ := finite_between.mp between
    refine ⟨_, mul_eq (toReal_natural factor), ?_⟩
    have exact : units * (k * unitsPerOne) ≤ highest * k * unitsPerOne * unitsPerOne := by
      calc units * (k * unitsPerOne) ≤ highest * unitsPerOne * (k * unitsPerOne) :=
            Nat.mul_le_mul_right _ below
        _ = highest * k * unitsPerOne * unitsPerOne := by ring
    obtain ⟨fits, rounded, le⟩ := Binary64.ofQuotient_bounded (negative != false) unitsPerOne_pos
      (representable_whole bits) exact
    change Between 0 (.integer (highest * k : Nat)) (.real (.ofQuotient _ _ _))
    rw [rounded]
    refine finite_between.mpr ⟨le, fun marked => ?_⟩
    rw [sign (by simpa only [Bool.bne_false] using marked), Nat.zero_mul]
    exact Nat.le_zero.mp (roundUnits_le unitsPerOne_pos (Nat.dvd_zero _) (Nat.zero_le _))

theorem floorOf_finite {negative : Bool} {units : Nat} {representable : Representable units} :
    floorOf (.finite negative units representable) =
      .ok (Binary64.signed negative units / unitsPerOne) := rfl

theorem unitsPerOne_eq_halves : unitsPerOne = 2 * 2 ^ 1073 := by
  rw [unitsPerOne_eq, ← Nat.pow_succ']

/-- A magnitude up to a whole number, with one half added, has this whole number at most before the
point. -/
theorem floor_half {units highest : Nat} {representable : Representable units}
    (below : units ≤ highest * unitsPerOne) (bits : 2 * highest + 1 < 2 ^ 53) :
    ∃ n : Nat, floorOf ((Binary64.finite false units representable).add half) = .ok (n : Int) ∧
      n ≤ highest := by
  have exact : units + 1 * 2 ^ 1073 ≤ (2 * highest + 1) * 2 ^ 1073 := by
    rw [unitsPerOne_eq_halves] at below
    linarith
  rw [half_eq]
  obtain ⟨negative, sum, fits, added, le, sign⟩ := @Binary64.add_bounded false false _ _ _ representable
    representable_half (representable_halves bits) exact
  have sign : negative = true → sum = 0 := sign (Int.add_nonneg (Int.natCast_nonneg _) (Int.natCast_nonneg _))
  rw [added, floorOf_finite]
  refine ⟨sum / unitsPerOne, ?_, ?_⟩
  · cases negative with
    | false => rfl
    | true =>
      have zero := sign rfl
      subst zero
      simp only [Binary64.signed_true, Nat.cast_zero, Int.neg_zero, Int.zero_ediv, Nat.zero_div]
  · have positive : 0 < 2 ^ 1073 := Nat.two_pow_pos _
    rw [unitsPerOne_eq_halves]
    generalize 2 ^ 1073 = half at le positive
    refine Nat.lt_add_one_iff.mp (Nat.div_lt_of_lt_mul ?_)
    linarith

theorem roundAway_eq {a : Number} {x : Binary64} {whole : Int} (magnitude : a.abs.toReal = .ok x)
    (floored : floorOf (x.add half) = .ok whole) :
    a.roundAway = .ok (if a.isNegative then -whole else whole) := by
  unfold roundAway
  rw [magnitude]
  change ((floorOf (x.add half)).bind fun whole => .ok (if a.isNegative then -whole else whole)) = _
  rw [floored]
  rfl

/-- A number from zero up to a whole number is rounded to a natural number up to it. A negative zero is
rounded to zero. -/
theorem roundAway_within {highest : Nat} {a : Number} (between : Between 0 (.integer highest) a)
    (bits : 2 * highest + 1 < 2 ^ 53) : ∃ n : Nat, a.roundAway = .ok (n : Int) ∧ n ≤ highest := by
  cases a with
  | integer n =>
    have inside : 0 ≤ n ∧ n ≤ highest := integer_between.mp between
    obtain ⟨magnitude, rfl⟩ := Int.eq_ofNat_of_zero_le inside.1
    have below : magnitude ≤ highest := Int.ofNat_le.mp inside.2
    have narrow : magnitude < 2 ^ 53 := by omega
    obtain ⟨whole, floored, le⟩ := @floor_half _ _ (representable_whole narrow)
      (Nat.mul_le_mul_right unitsPerOne below) bits
    have converted : (Number.integer magnitude).abs.toReal = _ := toReal_natural narrow
    have plain : (Number.integer magnitude).isNegative = false :=
      decide_eq_false (Int.not_lt.mpr inside.1)
    refine ⟨whole, ?_, le⟩
    rw [roundAway_eq converted floored, plain]
    rfl
  | real x =>
    obtain ⟨negative, units, representable, rfl⟩ := between.finite
    obtain ⟨below, sign⟩ := finite_between.mp between
    cases negative with
    | false =>
      obtain ⟨whole, floored, le⟩ := @floor_half _ _ representable below bits
      exact ⟨whole, roundAway_eq rfl floored, le⟩
    | true =>
      have zero : units ≤ 0 * unitsPerOne := by rw [sign rfl, Nat.zero_mul]
      obtain ⟨whole, floored, le⟩ := @floor_half _ 0 representable zero (by norm_num)
      have none : whole = 0 := Nat.le_zero.mp le
      subst none
      exact ⟨0, roundAway_eq rfl floored, Nat.zero_le _⟩

/-- A finite number that is not too large can be rounded. -/
theorem roundAway_of_within {bound : Nat} {x : Binary64} (within : x.Within bound)
    (bits : 2 * bound + 1 < 2 ^ 53) : ∃ n, (Number.real x).roundAway = .ok n := by
  obtain ⟨negative, units, fits, rfl, below⟩ := within
  obtain ⟨whole, floored, _⟩ := @floor_half _ _ fits below bits
  exact ⟨_, roundAway_eq rfl floored⟩

end Number

end SignalGenerator
