import Mathlib.Data.Rat.Floor
import SignalGenerator.Proofs.Resolution

/-!
Phases on the circle. Whole turns are taken from a phase without any loss, and a phase below zero is raised by
one more turn, which is rounded. Counted in units, what comes of it is the remainder of the phase, rounded
once, so it is the same for all phases that are whole turns apart.
-/

namespace SignalGenerator

namespace Binary64

/-- What is representable is not rounded. -/
theorem ofQuotient_exact (negative : Bool) {units : Nat} (fits : Representable units) :
    ofQuotient negative units 1 = .finite negative units fits := by
  have self := roundUnits_eq_self Nat.one_pos fits.grid
  rw [Nat.mul_one] at self
  rw [ofQuotient, self, ofUnits_eq fits]

/-- The remainder of finite numbers is exact, and it has the sign of the first. -/
theorem rem_finite (a b : Bool) {m n : Nat} (fitsX : Representable m) (fitsY : Representable n)
    (nonzero : n ≠ 0) : (finite a m fitsX).rem (.finite b n fitsY) =
      .finite a (m % n) (representable_mod fitsX fitsY) := by
  have computed : (finite a m fitsX).rem (.finite b n fitsY) = ofUnits a (m % n) := if_neg nonzero
  rw [computed, ofUnits_eq]

theorem zero_finite : zero = .finite false 0 representable_zero := ofUnits_eq _

/-- To take zero away changes nothing, not even the sign of a zero. -/
theorem sub_zero_finite (negative : Bool) {units : Nat} (fits : Representable units) :
    (finite negative units fits).sub zero = .finite negative units fits := by
  have opened : (finite negative units fits).sub zero =
      (finite negative units fits).add (.finite true 0 representable_zero) := by
    rw [sub, zero_finite]
    rfl
  rw [opened, finite_add, signed_zero, Int.add_zero, natAbs_signed, Bool.and_true]
  by_cases none : units = 0
  · subst none
    rw [signed_zero, if_pos rfl, ofUnits_eq representable_zero]
  · cases negative with
    | false => rw [signed_false, if_neg (by omega), decide_eq_false (by omega), ofQuotient_exact false fits]
    | true => rw [signed_true, if_neg (by omega), decide_eq_true (by omega), ofQuotient_exact true fits]

/-- Added to zero, a number only loses the sign of a zero. -/
theorem zero_add_finite (negative : Bool) {units : Nat} (fits : Representable units) :
    zero.add (.finite negative units fits) = .finite (negative && decide (units ≠ 0)) units fits := by
  rw [zero_finite, finite_add, signed_zero, Int.zero_add, natAbs_signed, Bool.false_and]
  by_cases none : units = 0
  · subst none
    rw [signed_zero, if_pos rfl, ofUnits_eq representable_zero, decide_eq_false (by simp), Bool.and_false]
  · rw [decide_eq_true none, Bool.and_true]
    cases negative with
    | false => rw [signed_false, if_neg (by omega), decide_eq_false (by omega), ofQuotient_exact false fits]
    | true => rw [signed_true, if_neg (by omega), decide_eq_true (by omega), ofQuotient_exact true fits]

end Binary64

namespace Scaling

open Binary64 (signed toRat perOne)

/-- A loop that comes to its end after so many rounds. -/
inductive Rounds {α : Type} (condition : α → Bool) (step : α → α) : Nat → α → α → Prop
  | finished {value} : condition value = false → Rounds condition step 0 value value
  | again {count value last} : condition value = true → Rounds condition step count (step value) last →
      Rounds condition step (count + 1) value last

/-- A limit that a loop does not reach takes nothing from it. -/
theorem Rounds.repeatWhile_eq {α : Type} {condition : α → Bool} {step : α → α} {count : Nat} {value last : α}
    (rounds : Rounds condition step count value last) :
    ∀ {limit : Nat}, count ≤ limit → repeatWhile condition step limit value = last := by
  induction rounds with
  | finished rests =>
    intro limit _
    cases limit with
    | zero => rfl
    | succ limit => rw [repeatWhile, rests, if_neg Bool.false_ne_true]
  | again holds _ ih =>
    intro limit le
    cases limit with
    | zero => omega
    | succ limit => rw [repeatWhile, holds, if_pos rfl, ih (by omega)]

/-- A full turn, in units. -/
def turnUnits : Nat := 360 * unitsPerOne

theorem representable_turn : Representable turnUnits := representable_whole (by norm_num)

theorem turnUnits_pos : 0 < turnUnits := Nat.mul_pos (by norm_num) unitsPerOne_pos

theorem fullTurn_eq : fullTurn = .finite false turnUnits representable_turn := by
  unfold fullTurn
  rw [Binary64.ofInt_eq (by norm_num)]
  simp only [Int.reduceLT, decide_false, show Int.natAbs 360 = 360 from rfl]
  rfl

/-- The loop that raises a phase runs below zero. -/
def belowZero (degrees : Binary64) : Bool := degrees.place.isLess Binary64.zero.place

/-- The loop that lowers a phase runs from a full turn on. -/
def fullOrMore (degrees : Binary64) : Bool := !degrees.place.isLess fullTurn.place

/-- What both loops start from. -/
def turnRemainder (degrees : Binary64) : Binary64 :=
  Binary64.zero.add ((degrees.sub Binary64.zero).rem fullTurn)

/-- One loop after the other leads from what is left of whole turns to an angle, and none of them takes more
than one round. -/
def WrapsInOneRound (degrees angle : Binary64) : Prop :=
  ∃ raised, (∃ count ≤ 1, Rounds belowZero (·.add fullTurn) count (turnRemainder degrees) raised) ∧
    ∃ count ≤ 1, Rounds fullOrMore (·.sub fullTurn) count raised angle

theorem WrapsInOneRound.wrapAngle_eq {degrees angle : Binary64} (wraps : WrapsInOneRound degrees angle) :
    wrapAngle degrees = angle := by
  obtain ⟨raised, ⟨m, few, up⟩, n, low, down⟩ := wraps
  have opened : wrapAngle degrees =
      repeatWhile fullOrMore (·.sub fullTurn) 2
        (repeatWhile belowZero (·.add fullTurn) 2 (turnRemainder degrees)) := rfl
  rw [opened, up.repeatWhile_eq (by omega), down.repeatWhile_eq (by omega)]

/-- The angle for a phase, in units: its remainder, rounded once. A remainder just below a full turn may be
rounded up to it, and then it is zero. -/
def angleUnits (place : Int) : Nat := roundUnits (place % turnUnits).toNat 1 % turnUnits

section
variable {negative : Bool} {units : Nat} {fits : Representable units}

theorem belowZero_finite : belowZero (.finite negative units fits) = decide (signed negative units < 0) := by
  rw [belowZero, Binary64.zero_finite]
  rfl

theorem fullOrMore_positive : fullOrMore (.finite false units fits) = decide (turnUnits ≤ units) := by
  have opened : fullOrMore (.finite false units fits) = !decide ((units : Int) < turnUnits) := by
    rw [fullOrMore, fullTurn_eq]
    rfl
  rw [opened, ← decide_not]
  exact decide_eq_decide.mpr (by omega)

/-- What is left of a phase is exact, and it has the sign of the phase, unless it is nothing. -/
theorem turnRemainder_finite : turnRemainder (.finite negative units fits) =
    .finite (negative && decide (units % turnUnits ≠ 0)) (units % turnUnits)
      (representable_mod fits representable_turn) := by
  rw [turnRemainder, Binary64.sub_zero_finite, fullTurn_eq,
    Binary64.rem_finite _ _ fits representable_turn turnUnits_pos.ne', Binary64.zero_add_finite]

theorem finite_of_units {m n : Nat} {fitsX : Representable m} (same : m = n) (fitsY : Representable n) :
    Binary64.finite negative m fitsX = .finite negative n fitsY := by
  subst same
  rfl

theorem roundUnits_le_turn {rest : Nat} (le : rest ≤ turnUnits) : roundUnits rest 1 ≤ turnUnits :=
  roundUnits_le Nat.one_pos representable_turn.grid (by rwa [Nat.mul_one])

/-- To what is left below zero a full turn is added, and the sum is rounded. -/
theorem raised_finite (below : units < turnUnits) :
    (Binary64.finite true units fits).add fullTurn =
      .ofUnits false (roundUnits (turnUnits - units) 1) := by
  rw [fullTurn_eq, Binary64.finite_add, Binary64.signed_true, Binary64.signed_false]
  generalize turnUnits = turn at below ⊢
  rw [if_neg (by omega), decide_eq_false (by omega), show (-(units : Int) + turn).natAbs = turn - units by omega,
    Binary64.ofQuotient]

/-- A full turn taken from itself leaves zero. -/
theorem lowered_turn : (Binary64.finite false turnUnits representable_turn).sub fullTurn =
    .finite false 0 representable_zero := by
  have opened : (Binary64.finite false turnUnits representable_turn).sub fullTurn =
      (Binary64.finite false turnUnits representable_turn).add (.finite true turnUnits representable_turn) := by
    rw [Binary64.sub, fullTurn_eq]
    rfl
  rw [opened, Binary64.finite_add, Binary64.signed_false, Binary64.signed_true,
    if_pos (Int.add_right_neg _), Binary64.ofUnits_eq representable_zero]
  rfl

theorem representable_angleUnits (place : Int) : Representable (angleUnits place) := by
  have below : (place % turnUnits).toNat ≤ turnUnits * 1 := by
    have range := Int.emod_lt_of_pos place (Int.natCast_pos.mpr turnUnits_pos)
    omega
  exact representable_mod (representable_turn.of_round Nat.one_pos below) representable_turn

/-- What was raised is lowered when it has been rounded up to a full turn. -/
theorem lowered_once {place : Int} {rest : Nat} (same : (place % turnUnits).toNat = rest) (le : rest ≤ turnUnits)
    (raised : Representable (roundUnits rest 1)) :
    ∃ count ≤ 1, Rounds fullOrMore (·.sub fullTurn) count (.finite false (roundUnits rest 1) raised)
      (.finite false (angleUnits place) (representable_angleUnits place)) := by
  have positive := turnUnits_pos
  have angle : angleUnits place = roundUnits rest 1 % turnUnits := by rw [angleUnits, same]
  rcases Nat.lt_or_eq_of_le (roundUnits_le_turn le) with below | turn
  · rw [Nat.mod_eq_of_lt below] at angle
    rw [finite_of_units angle raised]
    exact ⟨0, by omega, .finished (by rw [fullOrMore_positive, decide_eq_false (by omega)])⟩
  · rw [turn, Nat.mod_self] at angle
    rw [finite_of_units turn representable_turn, finite_of_units angle representable_zero]
    refine ⟨1, le_rfl, .again ?_ ?_⟩
    · rw [fullOrMore_positive, decide_eq_true le_rfl]
    · rw [lowered_turn]
      exact .finished (by rw [fullOrMore_positive, decide_eq_false (by omega)])

/-- The remainder of a phase below zero is what is missing to a full turn. -/
theorem signed_emod {turn : Nat} (positive : 0 < turn) : (signed negative units % (turn : Int)).toNat =
    if negative = true ∧ units % turn ≠ 0 then turn - units % turn else units % turn := by
  have below := Nat.mod_lt units positive
  cases negative with
  | false =>
    rw [Binary64.signed_false, if_neg (by simp), ← Int.natCast_emod, Int.toNat_natCast]
  | true =>
    rw [Binary64.signed_true, Int.neg_emod, ← Int.natCast_emod, Int.natAbs_natCast]
    by_cases none : units % turn = 0
    · rw [if_pos (Int.natCast_dvd_natCast.mpr (Nat.dvd_of_mod_eq_zero none)), if_neg (by simp [none]), none]
      rfl
    · rw [if_neg fun whole => none (Nat.mod_eq_zero_of_dvd (Int.natCast_dvd_natCast.mp whole)),
        if_pos ⟨rfl, none⟩]
      omega

/-- Both loops end after one round at most, with the remainder rounded once. -/
theorem wrapsInOneRound : WrapsInOneRound (.finite negative units fits)
    (.finite false (angleUnits (signed negative units)) (representable_angleUnits _)) := by
  have positive := turnUnits_pos
  have below := Nat.mod_lt units positive
  have remainder := @turnRemainder_finite negative units fits
  have place := @signed_emod negative units turnUnits positive
  by_cases raises : negative = true ∧ units % turnUnits ≠ 0
  · rw [if_pos raises] at place
    rw [decide_eq_true raises.2, raises.1, Bool.true_and] at remainder
    have raised := Representable.of_round representable_turn Nat.one_pos
      (by omega : turnUnits - units % turnUnits ≤ turnUnits * 1)
    refine ⟨.finite false _ raised, ⟨1, le_rfl, .again ?_ ?_⟩, lowered_once place (by omega) raised⟩
    · rw [raises.1, remainder, belowZero_finite, Binary64.signed_true, decide_eq_true (by omega)]
    · rw [raises.1, remainder, raised_finite below, Binary64.ofUnits_eq raised]
      exact .finished (by rw [belowZero_finite, Binary64.signed_false, decide_eq_false (by omega)])
  · rw [if_neg raises] at place
    rw [show (negative && decide (units % turnUnits ≠ 0)) = false by simpa using raises] at remainder
    have rest := representable_mod fits representable_turn
    have self := roundUnits_eq_self Nat.one_pos rest.grid
    rw [Nat.mul_one] at self
    have raised : Representable (roundUnits (units % turnUnits) 1) := self.symm ▸ rest
    refine ⟨.finite false _ raised, ⟨0, by omega, ?_⟩, lowered_once place below.le raised⟩
    rw [remainder, finite_of_units self rest]
    exact .finished (by rw [belowZero_finite, Binary64.signed_false, decide_eq_false (by omega)])

/-- What is left of an angle in degrees without its whole turns. -/
def circleRemainder (degrees : ℚ) : ℚ := degrees - 360 * ⌊degrees / 360⌋

/-- Not further from each other around the circle than the tolerance. -/
def CircleWithin (tolerance x y : ℚ) : Prop := ∃ turns : Int, |x - y - 360 * turns| ≤ tolerance

theorem CircleWithin.of_turns {x y : ℚ} (turns : Int) (apart : x - y = 360 * turns) : CircleWithin 0 x y :=
  ⟨turns, by rw [apart, sub_self, abs_zero]⟩

theorem CircleWithin.trans {first second x y z : ℚ} (near : CircleWithin first x y)
    (next : CircleWithin second y z) : CircleWithin (first + second) x z := by
  obtain ⟨m, near⟩ := near
  obtain ⟨n, next⟩ := next
  refine ⟨m + n, ?_⟩
  have apart : x - z - 360 * (m + n : Int) = x - y - 360 * m + (y - z - 360 * n) := by
    rw [Int.cast_add]
    ring
  rw [apart]
  exact (abs_add_le _ _).trans (add_le_add near next)

theorem circleWithin_remainder (degrees : ℚ) : CircleWithin 0 (circleRemainder degrees) degrees := by
  refine .of_turns (-⌊degrees / 360⌋) ?_
  rw [circleRemainder, Int.cast_neg]
  ring

theorem turnUnits_cast : (turnUnits : ℚ) = 360 * perOne := by
  rw [turnUnits, Nat.cast_mul, Nat.cast_ofNat, Binary64.perOne_eq]

theorem circleRemainder_toRat : circleRemainder (Binary64.finite negative units fits).toRat =
    (signed negative units % turnUnits : Int) / perOne := by
  have positive := Binary64.perOne_pos
  have place : (Binary64.finite negative units fits).toRat = signed negative units / perOne := rfl
  have turns : (signed negative units / perOne / 360 : ℚ) = signed negative units / (turnUnits : Nat) := by
    rw [turnUnits_cast, div_div, mul_comm perOne]
  rw [circleRemainder, place, turns, Rat.floor_intCast_div_natCast, Int.emod_def, Int.cast_sub, Int.cast_mul,
    Int.cast_natCast, turnUnits_cast, sub_div, mul_right_comm, mul_div_cancel_right₀ _ positive.ne']

theorem emod_turn_cast (place : Int) : ((place % turnUnits).toNat : ℚ) = (place % turnUnits : Int) := by
  have nonneg := Int.emod_nonneg place (Int.natCast_pos.mpr turnUnits_pos).ne'
  rw [← Int.cast_natCast, Int.toNat_of_nonneg nonneg]

/-- A magnitude of so many bits is on a grid that is 53 bits finer. -/
theorem spacing_le_two_pow {num place : Nat} (bits : num < 2 ^ (53 + place)) : spacing num ≤ 2 ^ place := by
  have small : num.log2 < 53 + place := by
    by_cases zero : num = 0
    · rw [zero, Nat.log2_zero]
      omega
    · exact (Nat.log2_lt zero).mpr bits
  exact Nat.pow_le_pow_right Nat.two_pos (by omega)

/-- Below 512 neighbouring numbers are 2^-44 apart at most. -/
theorem roundUnits_fine {num : Nat} (small : num < 512 * unitsPerOne) :
    |(roundUnits num 1 : ℚ) - num| ≤ perOne / 2 ^ 45 := by
  obtain ⟨above, below⟩ := @roundUnits_near num 1 Nat.one_pos
  rw [Nat.div_one, Nat.mul_one, Nat.mul_one] at above below
  have power : 512 * unitsPerOne = 2 ^ (53 + 1030) := by
    rw [unitsPerOne_eq, show 53 + 1030 = 9 + 1074 from rfl, pow_add]
    norm_num only
  have grid := spacing_le_two_pow (power ▸ small)
  have same : perOne = 2 ^ 44 * (2 ^ 1030 : Nat) := by
    rw [Binary64.perOne_eq, unitsPerOne_eq, Nat.cast_pow, Nat.cast_pow, Nat.cast_ofNat, ← pow_add]
  generalize 2 ^ 1030 = step at grid same
  have above : (2 * roundUnits num 1 : ℚ) ≤ 2 * num + step := by exact_mod_cast above.trans (by omega)
  have below : (2 * num : ℚ) ≤ 2 * roundUnits num 1 + step := by exact_mod_cast below.trans (by omega)
  rw [same, abs_le]
  constructor <;> linarith

/-- An angle is the remainder of its phase, but for one rounding. -/
theorem angle_near (place : Int) :
    CircleWithin (1 / 2 ^ 45) (angleUnits place / perOne) ((place % turnUnits : Int) / perOne) := by
  have positive := Binary64.perOne_pos
  have range := Int.emod_lt_of_pos place (Int.natCast_pos.mpr turnUnits_pos)
  have units := unitsPerOne_pos
  have small : (place % turnUnits).toNat < 512 * unitsPerOne := by
    unfold turnUnits at range ⊢
    omega
  have rounded := roundUnits_fine small
  rw [emod_turn_cast] at rounded
  have whole := Nat.div_add_mod (roundUnits (place % turnUnits).toNat 1) turnUnits
  have whole : (turnUnits * (roundUnits (place % turnUnits).toNat 1 / turnUnits : Nat) + angleUnits place : ℚ) =
      roundUnits (place % turnUnits).toNat 1 := by exact_mod_cast whole
  generalize roundUnits (place % turnUnits).toNat 1 / turnUnits = turns at whole
  rw [turnUnits_cast] at whole
  refine ⟨-(turns : Int), ?_⟩
  have apart : (angleUnits place / perOne - (place % turnUnits : Int) / perOne - 360 * (-(turns : Int) : Int) : ℚ) =
      (roundUnits (place % turnUnits).toNat 1 - (place % turnUnits : Int)) / perOne := by
    rw [← whole, Int.cast_neg, Int.cast_natCast]
    field_simp
    ring
  rw [apart, abs_div, abs_of_pos positive, div_le_iff₀ positive]
  calc |(roundUnits (place % turnUnits).toNat 1 - (place % turnUnits : Int) : ℚ)| ≤ perOne / 2 ^ 45 := rounded
    _ = 1 / 2 ^ 45 * perOne := by ring

/-- A phase that is not below zero is not rounded. -/
theorem angleUnits_natural (fits : Representable units) : angleUnits (units : Int) = units % turnUnits := by
  have self := roundUnits_eq_self Nat.one_pos (representable_mod fits representable_turn).grid
  rw [Nat.mul_one] at self
  rw [angleUnits, ← Int.natCast_emod, Int.toNat_natCast, self, Nat.mod_mod]

theorem place_of_nonneg (nonneg : 0 ≤ (Binary64.finite negative units fits).toRat) :
    signed negative units = units := by
  have place : (0 : ℚ) ≤ signed negative units := by
    rw [toRat, le_div_iff₀ Binary64.perOne_pos, zero_mul] at nonneg
    exact nonneg
  have place : 0 ≤ signed negative units := by exact_mod_cast place
  cases negative with
  | false => rfl
  | true =>
    rw [Binary64.signed_true] at place ⊢
    omega

theorem angleUnits_lt (place : Int) : angleUnits place < turnUnits := Nat.mod_lt _ turnUnits_pos

/-- An angle below a full turn is rounded to a number on the line that is half a degree away, but for one
rounding. -/
theorem roundAway_angle {n : Int} (below : units < turnUnits)
    (rounded : (Number.real (.finite false units fits)).roundAway = .ok n) :
    |n - (units / perOne : ℚ)| ≤ 1 / 2 + 1 / 2 ^ 45 := by
  have positive := Binary64.perOne_pos
  have value : (Binary64.finite false units fits).toRat = units / perOne := by
    rw [toRat, Binary64.signed_false, Int.cast_natCast]
  have halves : (1 / 2 : ℚ) = (1 * 2 ^ 1073 : Nat) / perOne := by
    rw [← Number.half_toRat, Number.half_eq, toRat, Binary64.signed_false, Int.cast_natCast]
  have positiveHalf : 0 < 1 * 2 ^ 1073 := mul_pos one_pos (pow_pos two_pos 1073)
  have room : 1 * 2 ^ 1073 ≤ unitsPerOne := by
    rw [Number.unitsPerOne_eq_halves]
    omega
  have sum : (Binary64.finite false units fits).abs.add Number.half =
      .ofQuotient false (units + 1 * 2 ^ 1073) 1 := by
    rw [Number.half_eq]
    exact Binary64.add_positive positiveHalf
  rw [← value]
  refine Number.roundAway_off_of ?_ rounded
  rw [value, abs_of_nonneg (div_nonneg units.cast_nonneg positive.le), halves, sum]
  generalize 1 * 2 ^ 1073 = half at room positiveHalf
  have small : units + half < 512 * unitsPerOne := by
    unfold turnUnits at below
    omega
  have narrow : Representable (512 * unitsPerOne) := representable_whole (by norm_num)
  obtain ⟨sumFits, added, _⟩ :=
    Binary64.ofQuotient_bounded false Nat.one_pos narrow (by omega : units + half ≤ 512 * unitsPerOne * 1)
  have near := roundUnits_fine small
  rw [added, toRat, Binary64.signed_false, Int.cast_natCast, ← add_div, ← sub_div, abs_div, abs_of_pos positive,
    div_le_iff₀ positive]
  calc |(roundUnits (units + half) 1 - (units + half) : ℚ)| ≤ perOne / 2 ^ 45 := by exact_mod_cast near
    _ = 1 / 2 ^ 45 * perOne := by ring

end

/-- Phases that are whole turns apart have the same angle. -/
theorem angleUnits_congr {place other turns : Int} (apart : place - other = turnUnits * turns) :
    angleUnits place = angleUnits other := by
  have same : place % turnUnits = other % turnUnits := by
    rw [Int.emod_eq_emod_iff_emod_sub_eq_zero, apart, Int.mul_emod_right]
  rw [angleUnits, angleUnits, same]

/-- Finite phases that are whole turns apart, in units. -/
theorem place_apart {a b : Bool} {m n : Nat} {fitsX : Representable m} {fitsY : Representable n} {turns : Int}
    (apart : (Binary64.finite a m fitsX).toRat - (Binary64.finite b n fitsY).toRat = 360 * turns) :
    signed a m - signed b n = turnUnits * turns := by
  have positive := Binary64.perOne_pos
  rw [toRat, toRat, ← sub_div, div_eq_iff positive.ne', mul_right_comm, ← turnUnits_cast] at apart
  exact_mod_cast apart

theorem normalizePhase_finite {negative : Bool} {units : Nat} {fits : Representable units} :
    normalizePhase (.real (.finite negative units fits)) =
      .ok (.finite false (angleUnits (signed negative units)) (representable_angleUnits _)) := by
  have again : Number.toReal (.real (.finite negative units fits)) = .ok (.finite negative units fits) := rfl
  have finite : (Binary64.finite negative units fits).isFinite = true := rfl
  have wrapped := (@wrapsInOneRound negative units fits).wrapAngle_eq
  rw [normalizePhase_eq again, if_pos finite, wrapped]

/-- A phase is sent as the whole number next to its angle, without whole turns. -/
theorem nearest_of_encodePhase {degrees : Number} {angle : Binary64} {raw : Int}
    (normalized : normalizePhase degrees = .ok angle) (encoded : encodePhase degrees = .ok raw) :
    ∃ nearest, (Number.real angle).roundAway = .ok nearest ∧ raw = nearest % 360 := by
  rw [encodePhase_eq, normalized, Except.bind] at encoded
  cases rounded : (Number.real angle).roundAway with
  | error fault =>
    rw [rounded] at encoded
    cases encoded
  | ok nearest =>
    rw [rounded] at encoded
    exact ⟨nearest, rfl, (Except.ok.inj encoded).symm⟩

/-- What is sent for a phase is half a degree away from it around the circle, but for two roundings. -/
theorem encodePhase_near {negative : Bool} {units : Nat} {fits : Representable units} {raw : Int}
    (encoded : encodePhase (.real (.finite negative units fits)) = .ok raw) :
    CircleWithin (1 / 2 + 1 / 2 ^ 44) raw (Binary64.finite negative units fits).toRat := by
  obtain ⟨nearest, rounded, rfl⟩ := nearest_of_encodePhase normalizePhase_finite encoded
  have whole : CircleWithin 0 ((nearest % 360 : Int) : ℚ) nearest := by
    refine .of_turns (-(nearest / 360)) ?_
    rw [Int.emod_def, Int.cast_sub, Int.cast_mul, Int.cast_neg, Int.cast_ofNat]
    ring
  have half : CircleWithin (1 / 2 + 1 / 2 ^ 45) nearest (angleUnits (signed negative units) / perOne) := by
    refine ⟨0, ?_⟩
    rw [Int.cast_zero, mul_zero, sub_zero]
    exact roundAway_angle (angleUnits_lt _) rounded
  have exact := circleWithin_remainder (Binary64.finite negative units fits).toRat
  rw [circleRemainder_toRat] at exact
  have total := ((whole.trans half).trans (angle_near (signed negative units))).trans exact
  have sum : (0 + (1 / 2 + 1 / 2 ^ 45) + 1 / 2 ^ 45 + 0 : ℚ) = 1 / 2 + 1 / 2 ^ 44 := by norm_num
  rwa [sum] at total

/-- Every finite phase is brought to one angle from zero up to a full turn, by one round of each loop at most.
The angle of a phase from zero on is exact, and below zero it is rounded once. All phases that are whole turns
apart have the same angle, an angle is its own, and what is sent for a phase is the whole number of degrees
next to it. -/
theorem phase_on_circle {degrees : Binary64} (finite : degrees.isFinite = true) :
    ∃ angle raw, normalizePhase (.real degrees) = .ok angle ∧ encodePhase (.real degrees) = .ok raw ∧
      WrapsInOneRound degrees angle ∧ angle.isFinite = true ∧ 0 ≤ angle.toRat ∧ angle.toRat < 360 ∧
      (0 ≤ degrees.toRat → angle.toRat = circleRemainder degrees.toRat) ∧
      CircleWithin (1 / 2 ^ 45) angle.toRat (circleRemainder degrees.toRat) ∧
      normalizePhase (.real angle) = .ok angle ∧
      0 ≤ raw ∧ raw ≤ 359 ∧ CircleWithin (1 / 2 + 1 / 2 ^ 44) raw degrees.toRat ∧
      ∀ other : Binary64, other.isFinite = true →
        (∃ turns : Int, degrees.toRat - other.toRat = 360 * turns) →
        normalizePhase (.real other) = .ok angle ∧ encodePhase (.real other) = .ok raw := by
  obtain ⟨negative, units, fits, rfl⟩ := Binary64.exists_finite finite
  have positive := Binary64.perOne_pos
  have normalized := @normalizePhase_finite negative units fits
  obtain ⟨raw, encoded⟩ : ∃ raw, encodePhase (.real (.finite negative units fits)) = .ok raw :=
    encodePhase_finite rfl finite
  obtain ⟨n, same, below⟩ := encodePhase_range encoded
  have value : (Binary64.finite false (angleUnits (signed negative units))
      (representable_angleUnits _)).toRat = angleUnits (signed negative units) / perOne := by
    rw [toRat, Binary64.signed_false, Int.cast_natCast]
  refine ⟨_, raw, normalized, encoded, wrapsInOneRound, rfl, ?_, ?_, ?_, ?_, ?_, by omega, by omega,
    encodePhase_near encoded, ?_⟩
  · rw [value]
    exact div_nonneg (Nat.cast_nonneg _) positive.le
  · rw [value, div_lt_iff₀ positive, ← turnUnits_cast]
    exact_mod_cast angleUnits_lt _
  · intro nonneg
    have plain := place_of_nonneg nonneg
    rw [value, circleRemainder_toRat, plain, angleUnits_natural fits, ← Int.natCast_emod, Int.cast_natCast]
  · rw [value, circleRemainder_toRat]
    exact angle_near _
  · have stays : angleUnits (signed false (angleUnits (signed negative units))) =
        angleUnits (signed negative units) := by
      rw [Binary64.signed_false, angleUnits_natural (representable_angleUnits _),
        Nat.mod_eq_of_lt (angleUnits_lt _)]
    rw [normalizePhase_finite, finite_of_units stays]
  · rintro other finiteOther ⟨turns, apart⟩
    obtain ⟨minus, count, otherFits, rfl⟩ := Binary64.exists_finite finiteOther
    have congr := angleUnits_congr (place_apart apart)
    have other : normalizePhase (.real (.finite minus count otherFits)) =
        normalizePhase (.real (.finite negative units fits)) := by
      rw [normalized, normalizePhase_finite, finite_of_units congr.symm]
    refine ⟨other.trans normalized, ?_⟩
    rw [encodePhase_eq, other, ← encodePhase_eq, encoded]

/-- The number next to zero, from below: a full turn is added to it, which gives a full turn, and it is taken
away again. -/
theorem phase_on_circle_next_to_zero :
    (Binary64.ofUnits true 1).isFinite = true ∧
      ∃ raised, Rounds belowZero (·.add fullTurn) 1 (turnRemainder (.ofUnits true 1)) raised ∧
        Rounds fullOrMore (·.sub fullTurn) 1 raised .zero ∧
        normalizePhase (.real (.ofUnits true 1)) = .ok .zero ∧
        CircleWithin (1 / 2 ^ 45) Binary64.zero.toRat (circleRemainder (Binary64.ofUnits true 1).toRat) ∧
        encodePhase (.real (.ofUnits true 1)) = .ok 0 ∧
        CircleWithin (1 / 2 + 1 / 2 ^ 44) (0 : Int) (Binary64.ofUnits true 1).toRat := by
  have finite : (Binary64.ofUnits true 1).isFinite = true := by decide +kernel
  have normal : normalizePhase (.real (.ofUnits true 1)) = .ok .zero := by decide +kernel
  have zero : encodePhase (.real (.ofUnits true 1)) = .ok 0 := by decide +kernel
  obtain ⟨angle, raw, normalized, encoded, _, _, _, _, _, near, _, _, _, close, _⟩ := phase_on_circle finite
  cases Except.ok.inj (normal.symm.trans normalized)
  cases Except.ok.inj (zero.symm.trans encoded)
  have raises : (turnRemainder (.ofUnits true 1)).add fullTurn = fullTurn := by decide +kernel
  have lowers : fullTurn.sub fullTurn = .zero := by decide +kernel
  refine ⟨finite, fullTurn, .again (by decide +kernel) ?_, .again (by decide +kernel) ?_, normal, near, zero, close⟩
  · rw [raises]
    exact .finished (by decide +kernel)
  · rw [lowers]
    exact .finished (by decide +kernel)

end Scaling

end SignalGenerator
