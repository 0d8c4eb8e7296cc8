import SignalGenerator.Proofs.Arithmetic
import SignalGenerator.Proofs.Numerals
import SignalGenerator.Text.Numeral

/-!
Reading back the text of a number. The digits that are written stand for a decimal number that is rounded
to the number again, and a reader finds the same decimal number in every layout of the text: with the point
among the digits, before them, or after the first one with an exponent.
-/

namespace SignalGenerator

theorem nearestEven_mul_right {num den k : Nat} (positive : 0 < k) :
    nearestEven (num * k) (den * k) = nearestEven num den := by
  have quotient : num * k / (den * k) = num / den := Nat.mul_div_mul_right num den positive
  have rest : num * k % (den * k) = num % den * k := Nat.mul_mod_mul_right k num den
  have less {a b : Nat} : a * k < b * k ↔ a < b := Nat.mul_lt_mul_right positive
  unfold nearestEven
  simp only [quotient, rest, ← Nat.mul_assoc, less]

/-- How a quotient is rounded does not depend on how it is written. -/
theorem roundUnits_mul_right (num den : Nat) {k : Nat} (positive : 0 < k) :
    roundUnits (num * k) (den * k) = roundUnits num den := by
  unfold roundUnits
  dsimp only
  rw [Nat.mul_div_mul_right num den positive, Nat.mul_right_comm, nearestEven_mul_right positive]

/-- A number is not below the power of ten with as many digits. -/
theorem pow_length_toDigits_le {n : Nat} (positive : 0 < n) :
    10 ^ ((Nat.toDigits 10 n).length - 1) ≤ n := by
  by_cases single : (Nat.toDigits 10 n).length ≤ 1
  · rwa [show (Nat.toDigits 10 n).length - 1 = 0 by omega]
  · have more : ¬ (Nat.toDigits 10 n).length ≤ (Nat.toDigits 10 n).length - 1 := by omega
    rwa [Nat.length_toDigits_le_iff (by omega) (by omega), Nat.not_lt] at more

namespace Decimal

theorem units_natCast (n m : Nat) : units ⟨n, (m : Int)⟩ = roundUnits (n * 10 ^ m * unitsPerOne) 1 := by
  simp [units]

theorem units_neg (n m : Nat) : units ⟨n, -(m : Int)⟩ = roundUnits (n * unitsPerOne) (10 ^ m) := by
  unfold units
  dsimp only
  split
  · obtain rfl : m = 0 := by omega
    simp
  · rw [Int.neg_neg, Int.toNat_natCast]
    rfl

/-- Zeros after the digits do not count. -/
theorem units_mul_ten_pow (n k : Nat) (exponent : Int) :
    units ⟨n * 10 ^ k, exponent - k⟩ = units ⟨n, exponent⟩ := by
  have ten (m : Nat) : 0 < 10 ^ m := Nat.pow_pos (by omega)
  obtain ⟨m, rfl | rfl⟩ := Int.eq_nat_or_neg exponent
  · rcases Nat.le_total k m with inside | beyond
    · obtain ⟨c, rfl⟩ := Nat.exists_eq_add_of_le inside
      rw [show ((k + c : Nat) : Int) - k = (c : Int) by omega, units_natCast, units_natCast,
        Nat.mul_assoc n, ← Nat.pow_add]
    · obtain ⟨c, rfl⟩ := Nat.exists_eq_add_of_le beyond
      rw [show (m : Int) - (m + c : Nat) = -(c : Int) by omega, units_neg, units_natCast,
        ← roundUnits_mul_right (n * 10 ^ m * unitsPerOne) 1 (ten c), Nat.one_mul, Nat.pow_add,
        ← Nat.mul_assoc, Nat.mul_right_comm]
  · rw [show -(m : Int) - k = -((m + k : Nat) : Int) by omega, units_neg, units_neg,
      ← roundUnits_mul_right (n * unitsPerOne) (10 ^ m) (ten k), Nat.pow_add, Nat.mul_right_comm]

theorem units_mono {n m : Nat} (le : n ≤ m) (exponent : Int) :
    units ⟨n, exponent⟩ ≤ units ⟨m, exponent⟩ := by
  obtain ⟨k, rfl | rfl⟩ := Int.eq_nat_or_neg exponent
  · rw [units_natCast, units_natCast]
    exact roundUnits_mono Nat.one_pos (Nat.mul_le_mul_right _ (Nat.mul_le_mul_right _ le))
  · rw [units_neg, units_neg]
    exact roundUnits_mono (Nat.pow_pos (by omega)) (Nat.mul_le_mul_right _ le)

section
variable {n count : Nat} {before power : Int}

/-- A number with so many digits before the point is not below the power of ten with as many. -/
theorem power_le_units (long : 10 ^ (count - 1) ≤ n) (positive : 0 < count) (below : power < before) :
    units ⟨1, power⟩ ≤ units ⟨n, before - count⟩ := by
  obtain ⟨j, apart⟩ := Int.le.dest (Int.add_one_le_of_lt below)
  have first := units_mul_ten_pow 1 (count - 1) power
  have second := units_mul_ten_pow n j (before - count)
  rw [show before - count - j = power - (count - 1 : Nat) by omega] at second
  rw [← first, ← second, Nat.one_mul]
  exact units_mono (long.trans (Nat.le_mul_of_pos_right n (Nat.pow_pos (by omega)))) _

/-- It is not above the next power of ten. -/
theorem units_le_power (short : n < 10 ^ count) (above : before ≤ power) :
    units ⟨n, before - count⟩ ≤ units ⟨1, power⟩ := by
  obtain ⟨j, apart⟩ := Int.le.dest above
  have power := units_mul_ten_pow 1 (count + j) power
  rw [show _ - ((count + j : Nat) : Int) = before - count by omega] at power
  rw [← power, Nat.one_mul, Nat.pow_add]
  exact units_mono (short.le.trans (Nat.le_mul_of_pos_right _ (Nat.pow_pos (by omega)))) _

end

theorem withDigits?_units {units count : Nat} {decimal : Decimal}
    (found : withDigits? units count = some decimal) : decimal.units = units := by
  have pick (nearer farther : Decimal) (taken : (if nearer.units = units then some nearer
      else if farther.units = units then some farther else none) = some decimal) :
      decimal.units = units := by
    split_ifs at taken with first second
    · exact Option.some.inj taken ▸ first
    · exact Option.some.inj taken ▸ second
  exact pick _ _ found

theorem units_exact {units : Nat} (grid : spacing units ∣ units) : (exact units).units = units := by
  obtain ⟨k, bits⟩ : ∃ k, k = 1074 := ⟨_, rfl⟩
  have exponent : (-1074 : Int) = -((1074 : Nat) : Int) := rfl
  have tens : units * Nat.pow 5 k * unitsPerOne = units * 10 ^ k := by
    rw [unitsPerOne_eq, ← bits, Nat.mul_assoc]
    exact congrArg (units * ·) (Nat.mul_pow 5 2 k).symm
  rw [exact, exponent, ← bits, units_neg, tens, roundUnits_eq_self (Nat.pow_pos (by omega)) grid]

/-- What is written for a magnitude is rounded to it. -/
theorem units_shortest {units : Nat} (grid : spacing units ∣ units) :
    (shortest units).units = units := by
  unfold shortest
  cases found : (List.range 17).findSome? fun i => withDigits? units (i + 1) with
  | none => exact units_exact grid
  | some decimal =>
    obtain ⟨i, _, written⟩ := List.exists_of_findSome?_eq_some found
    exact withDigits?_units written

end Decimal

namespace Binary64

theorem ofDecimal_eq (negative : Bool) (digits : Nat) (exponent : Int) :
    ofDecimal negative digits exponent = ofUnits negative (Decimal.units ⟨digits, exponent⟩) := by
  rw [ofDecimal, Decimal.units]
  split <;> rfl

/-- The digits that are written for a magnitude, without zeros after them. -/
def significant (units : Nat) : List Char :=
  ((Nat.toDigits 10 (Decimal.shortest units).digits).reverse.dropWhile (· == '0')).reverse

/-- The exponent of the first of them. -/
def leading (units : Nat) : Int :=
  (Decimal.shortest units).exponent + (Nat.toDigits 10 (Decimal.shortest units).digits).length - 1

/-- The digits `digits`, with the point after the first `before`, are what is written for a magnitude. -/
structure Denotes (units : Nat) (digits : List Char) (before : Int) : Prop where
  digital : ∀ c ∈ digits, c.isDigit = true
  nonempty : digits ≠ []
  long : 10 ^ (digits.length - 1) ≤ Numeral.ofDigits digits
  units : Decimal.units ⟨Numeral.ofDigits digits, before - digits.length⟩ = units

theorem magnitudeText_eq {units : Nat} (nonzero : units ≠ 0) :
    magnitudeText units =
      if -4 ≤ leading units ∧ leading units < 16 then positional (significant units) (leading units + 1)
      else scientific (significant units) (leading units) := if_neg nonzero

theorem ofDigits_zeros (digits : List Char) (k : Nat) :
    Numeral.ofDigits (digits ++ List.replicate k '0') = Numeral.ofDigits digits * 10 ^ k := by
  rw [Numeral.ofDigits, Nat.ofDigitChars_append, Nat.ofDigitChars_replicate_zero, Nat.mul_comm]
  rfl

/-- Only zeros are left out. -/
theorem significant_zeros (units : Nat) : ∃ k, Nat.toDigits 10 (Decimal.shortest units).digits =
    significant units ++ List.replicate k '0' := by
  let written := Nat.toDigits 10 (Decimal.shortest units).digits
  have zeros : written.reverse.takeWhile (· == '0') =
      List.replicate (written.reverse.takeWhile (· == '0')).length '0' :=
    List.eq_replicate_of_mem fun c member => by
      simpa using List.all_eq_true.mp List.all_takeWhile c member
  have parts := congrArg List.reverse
    (List.takeWhile_append_dropWhile (p := (· == '0')) (l := written.reverse))
  rw [List.reverse_append, List.reverse_reverse, zeros, List.reverse_replicate] at parts
  exact ⟨_, parts.symm⟩

theorem denotes_significant {units : Nat} (grid : spacing units ∣ units) (nonzero : units ≠ 0) :
    Denotes units (significant units) (leading units + 1) := by
  obtain ⟨k, zeros⟩ := significant_zeros units
  have read := Decimal.units_shortest grid
  have place : leading units = (Decimal.shortest units).exponent +
      (Nat.toDigits 10 (Decimal.shortest units).digits).length - 1 := rfl
  generalize Decimal.shortest units = decimal at zeros read place
  have value := Nat.ofDigitChars_ten_toDigits (n := decimal.digits)
  have positive : 0 < decimal.digits := by
    refine Nat.pos_of_ne_zero fun zero => nonzero ?_
    rw [← read, Decimal.units, zero]
    simp [roundUnits, nearestEven]
  have total : (Nat.toDigits 10 decimal.digits).length = (significant units).length + k := by
    rw [zeros, List.length_append, List.length_replicate]
  have product : decimal.digits = Numeral.ofDigits (significant units) * 10 ^ k := by
    rw [← ofDigits_zeros, ← zeros]
    exact value.symm
  have nonempty : significant units ≠ [] := by
    intro none
    rw [product, none] at positive
    simp [Numeral.ofDigits] at positive
  refine ⟨fun c member => ?_, nonempty, ?_, ?_⟩
  · exact Nat.isDigit_of_mem_toDigits (by omega) (by omega) (zeros ▸ List.mem_append_left _ member)
  · have long := pow_length_toDigits_le positive
    have length := List.length_pos_iff.mpr nonempty
    rw [total, product, Nat.sub_add_comm length, Nat.pow_add] at long
    exact Nat.le_of_mul_le_mul_right long (Nat.pow_pos (by omega))
  · have shifted := Decimal.units_mul_ten_pow (Numeral.ofDigits (significant units)) k
      (leading units + 1 - (significant units).length)
    rw [← product, show leading units + 1 - (significant units).length - k = decimal.exponent by omega,
      read] at shifted
    exact shifted.symm

end Binary64

namespace Numeral

open Binary64 (Denotes)

/-- Beyond 400 digits on either side of the point a decimal number is infinite or zero. -/
theorem units_range : Decimal.units ⟨1, -401⟩ = 0 ∧ Nat.pow 2 2098 ≤ Decimal.units ⟨1, 400⟩ := by
  decide +kernel

/-- What is made of digits that are rounded to a number is the number. -/
theorem scaled_eq {negative : Bool} {units : Nat} (representable : Representable units)
    (nonzero : units ≠ 0) {whole fraction : List Char} {exponent : Int}
    (read : Decimal.units ⟨ofDigits (whole ++ fraction), exponent - fraction.length⟩ = units) :
    scaled negative whole fraction exponent = .finite negative units representable := by
  unfold scaled
  dsimp only
  generalize ofDigits (whole ++ fraction) = n at read ⊢
  generalize exponent - (fraction.length : Int) = shift at read ⊢
  have some : n ≠ 0 := by
    rintro rfl
    refine nonzero (read.symm.trans ?_)
    simp [Decimal.units, roundUnits, nearestEven]
  have positive := Nat.length_toDigits_pos (b := 10) (n := n)
  have short : n < 10 ^ (Nat.toDigits 10 n).length :=
    (Nat.length_toDigits_le_iff (by omega) positive).mp Nat.le.refl
  have long := pow_length_toDigits_le (Nat.pos_of_ne_zero some)
  generalize (Nat.toDigits 10 n).length = count at positive short long ⊢
  obtain ⟨tiny, huge⟩ := units_range
  have place : (⟨n, shift⟩ : Decimal) = ⟨n, shift + count - count⟩ := by
    rw [Int.add_sub_cancel]
  rw [place] at read
  have notTiny : ¬ shift + count < -400 := by
    intro below
    have bound : Decimal.units ⟨n, shift + count - count⟩ ≤ Decimal.units ⟨1, -401⟩ :=
      Decimal.units_le_power short (by omega)
    omega
  have notHuge : ¬ 400 < shift + count := by
    intro above
    have bound : Decimal.units ⟨1, 400⟩ ≤ Decimal.units ⟨n, shift + count - count⟩ :=
      Decimal.power_le_units long positive above
    exact absurd representable.1 (Nat.not_lt.mpr ((huge.trans bound).trans_eq read))
  rw [← place] at read
  rw [if_neg (by simp [some, notTiny]), if_neg notHuge, Binary64.ofDecimal_eq, read]
  exact dif_pos representable

/-- Digits that denote a magnitude, also with more zeros after them. -/
theorem scaled_denotes {negative : Bool} {units : Nat} (representable : Representable units)
    (nonzero : units ≠ 0) {digits whole fraction : List Char} {before exponent : Int}
    (denotes : Denotes units digits before) (k : Nat)
    (value : ofDigits (whole ++ fraction) = ofDigits digits * 10 ^ k)
    (place : exponent - fraction.length = before - digits.length - k) :
    scaled negative whole fraction exponent = .finite negative units representable := by
  refine scaled_eq representable nonzero ?_
  rw [value, place, Decimal.units_mul_ten_pow]
  exact denotes.units

section
variable (negative : Bool) {whole fraction : List Char} (rest : List Char)
  (digital : ∀ c ∈ whole, c.isDigit = true) (stops : ∀ c ∈ rest.head?, c.isDigit = false)

include digital stops in
theorem digits_of_append : (whole ++ rest).takeWhile Char.isDigit = whole ∧
    (whole ++ rest).dropWhile Char.isDigit = rest := by
  rw [List.takeWhile_append_of_pos digital, List.dropWhile_append_of_pos digital]
  cases rest with
  | nil => simp
  | cons c rest =>
    have other := stops c rfl
    simp [other]

include digital stops in
/-- A numeral without a point. -/
theorem decimal?_whole (nonempty : whole ≠ []) (pointless : rest.head? ≠ some '.') :
    decimal? negative (whole ++ rest) = (exponent? rest).map (scaled negative whole []) := by
  obtain ⟨taken, dropped⟩ := digits_of_append rest digital stops
  unfold decimal?
  rw [taken, dropped]
  dsimp only
  split
  · exact absurd rfl pointless
  · simp [nonempty]

include digital stops in
/-- A numeral with a point. -/
theorem decimal?_point (nonempty : whole ≠ [])
    (fractional : ∀ c ∈ fraction, c.isDigit = true) :
    decimal? negative (whole ++ '.' :: (fraction ++ rest)) =
      (exponent? rest).map (scaled negative whole fraction) := by
  obtain ⟨taken, dropped⟩ := digits_of_append ('.' :: (fraction ++ rest)) digital (by simp)
  obtain ⟨after, last⟩ := digits_of_append rest fractional stops
  unfold decimal?
  rw [taken, dropped]
  simp only [after, last, List.isEmpty_eq_false_iff.mpr nonempty, Bool.false_and, Bool.false_eq_true,
    if_false]

end

theorem isDigit_of_zeros {k : Nat} : ∀ c ∈ List.replicate k '0', c.isDigit = true := by
  intro c member
  rw [List.eq_of_mem_replicate member]
  rfl

theorem ofDigits_zeros_append (k : Nat) (digits : List Char) :
    ofDigits (List.replicate k '0' ++ digits) = ofDigits digits := by
  rw [ofDigits, Nat.ofDigitChars_append, Nat.ofDigitChars_replicate_zero]
  rfl

/-- The exponent that is written, with its sign and zeros in front. -/
def exponentText (exponent : Int) : List Char :=
  'e' :: (if exponent < 0 then '-' else '+') ::
    (List.replicate (2 - (Nat.toDigits 10 exponent.natAbs).length) '0' ++ Nat.toDigits 10 exponent.natAbs)

theorem exponent?_text (exponent : Int) : exponent? (exponentText exponent) = some exponent := by
  unfold exponentText
  generalize zeros : List.replicate (2 - (Nat.toDigits 10 exponent.natAbs).length) '0' ++
    Nat.toDigits 10 exponent.natAbs = digits
  have value : ofDigits digits = exponent.natAbs := by
    rw [← zeros, ofDigits_zeros_append]
    exact Nat.ofDigitChars_ten_toDigits
  have nonempty : digits.isEmpty = false := by
    rw [List.isEmpty_eq_false_iff, ← zeros]
    exact List.append_ne_nil_of_right_ne_nil _ Nat.toDigits_ne_nil
  have digital : digits.all Char.isDigit = true := by
    rw [List.all_eq_true, ← zeros]
    intro c member
    rcases List.mem_append.mp member with zero | digit
    · exact isDigit_of_zeros c zero
    · exact Nat.isDigit_of_mem_toDigits (by omega) (by omega) digit
  by_cases below : exponent < 0
  · simp only [exponent?, if_pos below, signed, nonempty, digital, value]
    exact congrArg some (by omega : -(exponent.natAbs : Int) = exponent)
  · simp only [exponent?, if_neg below, signed, nonempty, digital, value]
    exact congrArg some (by omega : (exponent.natAbs : Int) = exponent)

section
variable {negative : Bool} {units : Nat} (representable : Representable units) (nonzero : units ≠ 0)
  {digits : List Char} {before : Int}

/-- A text without an exponent, and what a reader makes of its digits. -/
structure Plain (negative : Bool) (x : Binary64) (whole fraction : List Char) : Prop where
  wholeDigits : ∀ c ∈ whole, c.isDigit = true
  wholeNonempty : whole ≠ []
  fractionDigits : ∀ c ∈ fraction, c.isDigit = true
  fractionNonempty : fraction ≠ []
  value : scaled negative whole fraction 0 = x

include nonzero in
theorem positional_plain (denotes : Denotes units digits before) :
    ∃ whole fraction, Binary64.positional digits before = whole ++ '.' :: fraction ∧
      Plain negative (.finite negative units representable) whole fraction := by
  have length := List.length_pos_iff.mpr denotes.nonempty
  have value {whole fraction : List Char} (k : Nat)
      (same : whole ++ fraction = digits ++ List.replicate k '0')
      (place : (0 : Int) - fraction.length = before - digits.length - k) :
      scaled negative whole fraction 0 = .finite negative units representable :=
    scaled_denotes representable nonzero denotes k (same ▸ Binary64.ofDigits_zeros digits k) place
  unfold Binary64.positional
  split
  · rename_i inside
    obtain ⟨w, rfl⟩ := Int.eq_ofNat_of_zero_le inside.le
    dsimp only [Int.toNat_natCast]
    have whole : ∀ c ∈ digits.take w ++ List.replicate (w - digits.length) '0', c.isDigit = true :=
      List.forall_mem_append.mpr
        ⟨fun c member => denotes.digital c (List.mem_of_mem_take member), isDigit_of_zeros⟩
    have nonempty : digits.take w ++ List.replicate (w - digits.length) '0' ≠ [] := by
      rw [← List.length_pos_iff, List.length_append, List.length_take, List.length_replicate]
      omega
    by_cases all : digits.length ≤ w
    · refine ⟨_, ['0'], ?_, whole, nonempty, by simp, by simp, value (w - digits.length + 1) ?_ ?_⟩
      · rw [List.drop_of_length_le all]
        rfl
      · rw [List.append_assoc, ← List.replicate_succ', List.take_of_length_le all]
      · rw [List.length_singleton]
        omega
    · refine ⟨_, digits.drop w, ?_, whole, nonempty, ?_, by simpa using all, value 0 ?_ ?_⟩
      · rw [if_neg (by simpa using all)]
      · exact fun c member => denotes.digital c (List.mem_of_mem_drop member)
      · rw [show w - digits.length = 0 by omega, List.replicate_zero, List.append_nil,
          List.take_append_drop, List.append_nil]
      · rw [List.length_drop]
        omega
  · rename_i outside
    refine ⟨['0'], List.replicate (-before).toNat '0' ++ digits, rfl, by simp, by simp, ?_, ?_, ?_⟩
    · exact List.forall_mem_append.mpr ⟨isDigit_of_zeros, denotes.digital⟩
    · exact List.append_ne_nil_of_right_ne_nil _ denotes.nonempty
    · refine scaled_denotes representable nonzero denotes 0 ?_ ?_
      · rw [← List.append_assoc, Nat.pow_zero, Nat.mul_one]
        exact ofDigits_zeros_append ((-before).toNat + 1) digits
      · rw [List.length_append, List.length_replicate]
        omega

/-- What stands between the first digit and the exponent. -/
def pointed (later : List Char) : List Char := if later.isEmpty then [] else '.' :: later

include nonzero in
theorem scientific_parts {exponent : Int} (denotes : Denotes units digits (exponent + 1)) :
    ∃ first later, Binary64.scientific digits exponent =
        first :: (pointed later ++ exponentText exponent) ∧
      (∀ c ∈ first :: later, c.isDigit = true) ∧
      scaled negative [first] later exponent = .finite negative units representable := by
  obtain ⟨first, later, rfl⟩ := List.exists_cons_of_ne_nil denotes.nonempty
  refine ⟨first, later, ?_, denotes.digital, ?_⟩
  · simp [Binary64.scientific, exponentText, pointed]
  · refine scaled_denotes representable nonzero denotes 0 (by simp) ?_
    rw [List.length_cons]
    omega

end

section
variable {units : Nat} (representable : Representable units)

theorem plain_zero (negative : Bool) (zero : Representable 0) :
    Plain negative (.finite negative 0 zero) ['0'] ['0'] where
  wholeDigits := by simp
  wholeNonempty := by simp
  fractionDigits := by simp
  fractionNonempty := by simp
  value := by
    have value : ofDigits (['0'] ++ ['0']) = 0 := rfl
    unfold scaled
    dsimp only
    rw [if_pos (Or.inl value)]
    exact dif_pos zero

/-- The text of a magnitude has no exponent from one ten-thousandth up, as long as there are sixteen digits
at most before the point. -/
theorem magnitudeText_plain (negative : Bool)
    (near : units = 0 ∨ (-4 ≤ Binary64.leading units ∧ Binary64.leading units < 16)) :
    ∃ whole fraction, Binary64.magnitudeText units = whole ++ '.' :: fraction ∧
      Plain negative (.finite negative units representable) whole fraction := by
  by_cases zero : units = 0
  · subst zero
    exact ⟨['0'], ['0'], rfl, plain_zero negative representable⟩
  · rw [Binary64.magnitudeText_eq zero, if_pos (near.resolve_left zero)]
    exact positional_plain representable zero (Binary64.denotes_significant representable.grid zero)

theorem magnitudeText_scientific (negative : Bool)
    (far : ¬ (units = 0 ∨ (-4 ≤ Binary64.leading units ∧ Binary64.leading units < 16))) :
    ∃ first later, Binary64.magnitudeText units =
        first :: (pointed later ++ exponentText (Binary64.leading units)) ∧
      (∀ c ∈ first :: later, c.isDigit = true) ∧
      scaled negative [first] later (Binary64.leading units) =
        .finite negative units representable := by
  obtain ⟨nonzero, outside⟩ := not_or.mp far
  rw [Binary64.magnitudeText_eq nonzero, if_neg outside]
  exact scientific_parts representable nonzero
    (Binary64.denotes_significant representable.grid nonzero)

theorem decimal?_magnitudeText (negative : Bool) :
    decimal? negative (Binary64.magnitudeText units) = some (.finite negative units representable) := by
  by_cases near : units = 0 ∨ (-4 ≤ Binary64.leading units ∧ Binary64.leading units < 16)
  · obtain ⟨whole, fraction, text, plain⟩ := magnitudeText_plain representable negative near
    have read := decimal?_point negative [] plain.wholeDigits (by simp)
      plain.wholeNonempty plain.fractionDigits
    rw [List.append_nil] at read
    rw [text, read]
    exact congrArg some plain.value
  · obtain ⟨first, later, text, digital, value⟩ := magnitudeText_scientific representable negative near
    obtain ⟨digit, others⟩ := List.forall_mem_cons.mp digital
    have alone : ∀ c ∈ [first], c.isDigit = true := List.forall_mem_singleton.mpr digit
    have stops : ∀ c ∈ (exponentText (Binary64.leading units)).head?, c.isDigit = false := by
      simp [exponentText]
    rw [text, ← value]
    by_cases none : later = []
    · subst none
      have read := decimal?_whole negative _ alone stops (by simp) (by simp [exponentText])
      rw [exponent?_text] at read
      exact read
    · have read := decimal?_point negative _ alone stops (by simp) others
      rw [exponent?_text] at read
      rw [pointed, List.isEmpty_eq_false_iff.mpr none, if_neg Bool.false_ne_true, List.cons_append]
      exact read

end

/-- A character that stands in the text of a finite number. -/
def Written (c : Char) : Prop := c.isDigit = true ∨ c ∈ ['.', 'e', '+', '-']

/-- Written characters are ASCII, and they are neither blanks nor underscores. -/
theorem Written.plain {c : Char} (written : Written c) :
    Numeral.plain c = some c ∧ isAsciiBlank c = false ∧ c ≠ '_' := by
  rcases written with digit | sign
  · have range := toNat_of_isDigit digit
    refine ⟨if_pos (by omega), ?_, ?_⟩
    · have space : c ≠ ' ' := by
        rintro rfl
        exact absurd digit (by decide)
      simp only [isAsciiBlank, space, decide_false, Bool.false_or, decide_eq_false_iff_not]
      omega
    · rintro rfl
      exact absurd digit (by decide)
  · simp only [List.mem_cons, List.not_mem_nil, or_false] at sign
    rcases sign with rfl | rfl | rfl | rfl <;> decide

theorem written_of_isDigit {text : List Char} (digital : ∀ c ∈ text, c.isDigit = true) :
    ∀ c ∈ text, Written c := fun c member => .inl (digital c member)

theorem written_exponentText (exponent : Int) : ∀ c ∈ exponentText exponent, Written c := by
  have sign : Written (if exponent < 0 then '-' else '+') := by
    split <;> exact .inr (by simp)
  refine List.forall_mem_cons.mpr ⟨.inr (by simp), List.forall_mem_cons.mpr ⟨sign, ?_⟩⟩
  refine List.forall_mem_append.mpr ⟨written_of_isDigit isDigit_of_zeros, fun c member => ?_⟩
  exact .inl (Nat.isDigit_of_mem_toDigits (by omega) (by omega) member)

/-- The text of a magnitude begins with a digit, and only written characters stand in it. -/
theorem written_magnitudeText {units : Nat} (representable : Representable units) :
    (∀ c ∈ Binary64.magnitudeText units, Written c) ∧
      ∃ first rest, Binary64.magnitudeText units = first :: rest ∧ first.isDigit = true := by
  have point : Written '.' := .inr (by simp)
  by_cases near : units = 0 ∨ (-4 ≤ Binary64.leading units ∧ Binary64.leading units < 16)
  · obtain ⟨whole, fraction, text, plain⟩ := magnitudeText_plain representable false near
    obtain ⟨first, rest, rfl⟩ := List.exists_cons_of_ne_nil plain.wholeNonempty
    refine ⟨?_, first, _, text, plain.wholeDigits first List.mem_cons_self⟩
    rw [text]
    exact List.forall_mem_append.mpr ⟨written_of_isDigit plain.wholeDigits,
      List.forall_mem_cons.mpr ⟨point, written_of_isDigit plain.fractionDigits⟩⟩
  · obtain ⟨first, later, text, digital, _⟩ := magnitudeText_scientific representable false near
    obtain ⟨digit, others⟩ := List.forall_mem_cons.mp digital
    refine ⟨?_, first, _, text, digit⟩
    rw [text]
    refine List.forall_mem_cons.mpr ⟨.inl digit, List.forall_mem_append.mpr ⟨?_, written_exponentText _⟩⟩
    unfold pointed
    split
    · exact List.forall_mem_nil _
    · exact List.forall_mem_cons.mpr ⟨point, written_of_isDigit others⟩

theorem withoutUnderscores_of_not_mem {text : List Char} (plain : ∀ c ∈ text, c ≠ '_') :
    withoutUnderscores text = some text := by
  fun_induction withoutUnderscores text with
  | case1 => rfl
  | case2 c d rest => exact absurd rfl (plain '_' (by simp))
  | case3 c d rest => exact absurd rfl (plain '_' (by simp))
  | case4 rest => exact absurd rfl (plain '_' (by simp))
  | case5 c rest _ other ih =>
    rw [ih fun d member => plain d (List.mem_cons_of_mem c member)]
    rfl

theorem trimmed_written {text : List Char} (written : ∀ c ∈ text, Written c) :
    trimmed (String.ofList text) = some text := by
  have kept : text.mapM plain = some text := by
    induction text with
    | nil => rfl
    | cons c rest ih =>
      obtain ⟨first, others⟩ := List.forall_mem_cons.mp written
      rw [List.mapM_cons, first.plain.1, ih others]
      rfl
  have blankless (text : List Char) (written : ∀ c ∈ text, Written c) :
      text.dropWhile isAsciiBlank = text := by
    cases text with
    | nil => rfl
    | cons c rest =>
      rw [List.dropWhile_cons_of_neg]
      rw [(written c List.mem_cons_self).plain.2.1]
      exact Bool.false_ne_true
  rw [trimmed, String.toList_ofList, kept]
  change some ((text.dropWhile isAsciiBlank).reverse.dropWhile isAsciiBlank).reverse = some text
  rw [blankless text written, blankless text.reverse fun c member => written c (List.mem_reverse.mp member),
    List.reverse_reverse]

/-- A numeral that begins with a digit is none of the words. -/
theorem word_ne {first letter : Char} (digit : first.isDigit = true) (rest others : List Char)
    (alphabetic : letter.isDigit = false) :
    String.ofList ((first :: rest).map Char.toLower) ≠ String.ofList (letter :: others) := by
  intro same
  have all : ∀ n < 128, (Char.ofNat n).isDigit = true → (Char.ofNat n).toLower.isDigit = true := by
    decide
  have lower := all first.toNat (by have := toNat_of_isDigit digit; omega)
  rw [Char.ofNat_toNat] at lower
  obtain ⟨begins, _⟩ := List.cons.inj (String.ofList_injective same)
  rw [← begins, lower digit] at alphabetic
  cases alphabetic

/-- A sign is told from the digits after it. -/
theorem signed_digit (negative : Bool) {first : Char} (digit : first.isDigit = true) (rest : List Char) :
    signed ((if negative then ['-'] else []) ++ first :: rest) = (negative, first :: rest) := by
  cases negative with
  | true => rfl
  | false =>
    change signed (first :: rest) = _
    unfold signed
    split
    · rename_i same
      cases same
      cases digit
    · rename_i same
      cases same
      cases digit
    · rfl

/-- The text of a finite number is read as the number. -/
theorem real?_text {negative : Bool} {units : Nat} (representable : Representable units) :
    real? (Binary64.finite negative units representable).text =
      some (.finite negative units representable) := by
  obtain ⟨written, first, rest, begins, digit⟩ := written_magnitudeText representable
  have read := decimal?_magnitudeText representable negative
  have signedText : ∀ c ∈ (if negative then ['-'] else []) ++ Binary64.magnitudeText units, Written c := by
    refine List.forall_mem_append.mpr ⟨?_, written⟩
    split
    · exact List.forall_mem_singleton.mpr (.inr (by simp))
    · exact List.forall_mem_nil _
  unfold real? Binary64.text
  rw [trimmed_written signedText, Option.bind_eq_bind, Option.bind_some,
    withoutUnderscores_of_not_mem fun c member => (signedText c member).plain.2.2]
  rw [begins] at read ⊢
  rw [Option.bind_some, signed_digit negative digit rest]
  dsimp only
  rw [← read]
  have infinite : _ ≠ "inf" := word_ne digit rest ['n', 'f'] rfl
  have infinity : _ ≠ "infinity" := word_ne digit rest ['n', 'f', 'i', 'n', 'i', 't', 'y'] rfl
  have nan : _ ≠ "nan" := word_ne digit rest ['a', 'n'] rfl
  simp only [infinite, infinity, nan, decide_false, Bool.or_self, Bool.false_eq_true, if_false]

end Numeral

end SignalGenerator
