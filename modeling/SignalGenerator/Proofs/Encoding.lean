import SignalGenerator.Panel.Limits
import SignalGenerator.Panel.Scaling
import SignalGenerator.Proofs.Arithmetic

/-!
What the limits let through and what is sent for it. A value passes exactly when it lies between its
limits, and what passes is encoded as a natural number up to the encoding of the upper limit.
-/

namespace SignalGenerator

open Binary64 (Within)
open Number (Between Fits)

theorem Number.finiteOr_eq_ok {fault : ArithmeticFault} {x y : Binary64}
    (given : finiteOr fault x = .ok y) : x = y ∧ x.isFinite = true := by
  unfold finiteOr at given
  split at given
  · rename_i finite
    exact ⟨Except.ok.inj given, finite⟩
  · cases given

theorem Number.div_eq {a b : Number} {x y : Binary64} (atA : a.toReal = .ok x) (atB : b.toReal = .ok y)
    (mixed : ∀ m n, a = .integer m → b ≠ .integer n) (nonzero : y.place.isSame (.units 0) = false) :
    a.div b = .ok (x.div y) := by
  have opened : a.div b = (do
      let x ← a.toReal
      let y ← b.toReal
      if y.place.isSame (.units 0) then throw .divisionByZero
      return x.div y) := by
    cases a with
    | real x => simp only [Number.div]
    | integer m =>
      cases b with
      | real y => simp only [Number.div]
      | integer n => exact absurd rfl (mixed m n rfl)
  rw [opened, atA, atB]
  simp only [bind, Except.bind, nonzero, Bool.false_eq_true, if_false, pure, Except.pure]

/-- A number with a place on the line, neither infinite nor not a number. -/
def Number.Finite (a : Number) : Prop := ∃ units, a.place = .units units

theorem Number.isFinite_eq {a : Number} {x : Binary64} (converted : a.toReal = .ok x) :
    a.isFinite = .ok x.isFinite := by
  unfold isFinite
  rw [converted]
  rfl

theorem Number.isFinite_iff {a : Number} {x : Binary64} (converted : a.toReal = .ok x) :
    x.isFinite = true ↔ a.Finite := by
  cases a with
  | integer n =>
    obtain ⟨rfl, finite⟩ := finiteOr_eq_ok converted
    exact ⟨fun _ => ⟨_, rfl⟩, fun _ => finite⟩
  | real y =>
    cases Except.ok.inj converted
    cases x with
    | finite negative units representable => exact ⟨fun _ => ⟨_, rfl⟩, fun _ => rfl⟩
    | infinite negative => cases negative <;> exact ⟨nofun, nofun⟩
    | nan => exact ⟨nofun, nofun⟩

namespace Number

theorem greatest_place {a b : Number} {x y : Int} (atA : a.place = .units x) (atB : b.place = .units y) :
    (a.greatest b).place = .units (max x y) := by
  simp only [greatest, isLess, atA, atB, Place.isLess, decide_eq_true_eq]
  by_cases less : x < y
  · rw [if_pos less, atB, max_eq_right less.le]
  · rw [if_neg less, atA, max_eq_left (Int.not_lt.mp less)]

theorem least_place {a b : Number} {x y : Int} (atA : a.place = .units x) (atB : b.place = .units y) :
    (a.least b).place = .units (min x y) := by
  simp only [least, isLess, atA, atB, Place.isLess, decide_eq_true_eq]
  by_cases less : y < x
  · rw [if_pos less, atB, min_eq_right less.le]
  · rw [if_neg less, atA, min_eq_left (Int.not_lt.mp less)]

theorem isAtMost_iff {a b : Number} {x y : Int} (atA : a.place = .units x) (atB : b.place = .units y) :
    a.isAtMost b = true ↔ x ≤ y := by
  rw [isAtMost, isLess, isSame, atA, atB, Bool.or_eq_true, Place.isLess, Place.isSame, decide_eq_true_eq,
    decide_eq_true_eq, Place.units.injEq]
  · exact le_iff_lt_or_eq.symm
  · nofun

theorem place_finite {negative : Bool} {units : Nat} {representable : Representable units} :
    (Number.real (.finite negative units representable)).place =
      .units (Binary64.signed negative units) := rfl

theorem zero_place : (Number.real Binary64.zero).place = .units 0 := by
  unfold Binary64.zero
  rw [Binary64.ofUnits_eq representable_zero]
  rfl

end Number

namespace Limits

/-- There is nothing to say about a value exactly when it lies between its limits. -/
theorem errors_exact {quantity below above : String} {value lowest highest : Number} {low high : Int}
    (fits : value.Fits) (lowPlace : lowest.place = .units low) (highPlace : highest.place = .units high) :
    ∃ list, errors quantity below above value lowest highest = .ok list ∧
      (list = [] ↔ Between lowest highest value) := by
  obtain ⟨x, converted⟩ := fits
  have decided := Number.isFinite_eq converted
  have located := Number.isFinite_iff converted
  generalize x.isFinite = finite at decided located
  refine ⟨_, by rw [errors, decided]; rfl, ?_⟩
  by_cases known : value.Finite
  · obtain ⟨units, placed⟩ := known
    have certain : finite = true := located.mpr ⟨units, placed⟩
    subst certain
    simp only [Number.isLess, placed, lowPlace, highPlace, Place.isLess, Between]
    simp
  · have lost : finite = false := Bool.eq_false_iff.mpr fun certain => known (located.mp certain)
    subst lost
    simp only [Bool.false_eq_true, if_false, List.cons_append, List.cons_ne_nil, false_iff]
    rintro ⟨_, _, units, _, _, placed, _, _⟩
    exact known ⟨units, placed⟩

theorem fits_of_errors {quantity below above : String} {value lowest highest : Number}
    {list : List String} (given : errors quantity below above value lowest highest = .ok list) :
    value.Fits := by
  cases converted : value.toReal with
  | ok x => exact ⟨x, converted⟩
  | error fault =>
    have stopped : errors quantity below above value lowest highest = .error fault := by
      rw [errors, Number.isFinite, converted]
      rfl
    cases stopped.symm.trans given

/-- What there is nothing to say about lies between its limits. -/
theorem between_of_errors {quantity below above : String} {value lowest highest : Number} {low high : Int}
    (given : errors quantity below above value lowest highest = .ok [])
    (lowPlace : lowest.place = .units low) (highPlace : highest.place = .units high) :
    Between lowest highest value := by
  obtain ⟨list, same, passes⟩ := errors_exact (fits_of_errors given) lowPlace highPlace
  exact passes.mp (Except.ok.inj (same.symm.trans given))

theorem amplitude_between {volts : Number} (given : amplitudeErrors volts = .ok []) :
    Between 0 20 volts := between_of_errors given rfl rfl

theorem dutyCycle_between {percent : Number} (given : dutyCycleErrors percent = .ok []) :
    Between 0 100 percent := between_of_errors given rfl rfl

theorem offsetPercent_between {percent : Number} (given : offsetPercentErrors percent = .ok []) :
    Between (.integer (-120)) 120 percent := between_of_errors given rfl rfl

theorem microhertz_place : ∃ units, (Number.real microhertz).place = .units units := by
  have quotient : microhertz = .ofQuotient false (1 * unitsPerOne) (10 ^ 6) := by
    unfold microhertz Binary64.ofDecimal
    rw [if_neg (by decide)]
    rfl
  have one : Representable (1 * unitsPerOne) := representable_whole (by norm_num)
  obtain ⟨_, rounded, _⟩ := Binary64.ofQuotient_bounded false (by norm_num : 0 < 10 ^ 6) one
    (Nat.le_mul_of_pos_right _ (by norm_num))
  rw [quotient, rounded]
  exact ⟨_, Number.place_finite⟩

theorem megahertz_place {count : Nat} (bits : count * 1000000 < 2 ^ 53) :
    ∃ units, (Number.real (megahertz count)).place = .units units := by
  unfold megahertz
  rw [Binary64.ofInt_eq (by omega)]
  exact ⟨_, Number.place_finite⟩

theorem channelTable_known {channel : Int} (known : channel ∈ channels) :
    ∃ name, channelTable? channel = some ⟨name, waveformTable⟩ := by
  simp only [channels, List.mem_cons, List.not_mem_nil, or_false] at known
  rcases known with rfl | rfl
  · exact ⟨_, rfl⟩
  · exact ⟨_, rfl⟩

theorem waveformTable_places {entry : WaveformRange} (member : entry ∈ waveformTable) :
    (∃ units, (Number.real entry.lowest).place = .units units) ∧
      ∃ units, (Number.real entry.highest).place = .units units := by
  simp only [waveformTable, List.mem_cons, List.not_mem_nil, or_false] at member
  rcases member with rfl | rfl | rfl | rfl | rfl
  all_goals
    dsimp only
    exact ⟨microhertz_place, megahertz_place (by norm_num)⟩

/-- The range of a waveform begins at zero at least and ends at the maximum of the model at most. -/
theorem frequencyRange_bounds {waveform : Waveform} {maximum channel : Int} (known : channel ∈ channels) :
    ∃ lowest highest step low high,
      frequencyRange waveform (.integer maximum) channel = .ok (lowest, highest, step) ∧
      lowest.place = .units low ∧ highest.place = .units high ∧ 0 ≤ low ∧
      high ≤ maximum * unitsPerOne := by
  obtain ⟨name, table⟩ := channelTable_known known
  unfold frequencyRange
  rw [table]
  dsimp only
  cases found : ChannelTable.find? ⟨name, waveformTable⟩ waveform with
  | none => exact ⟨_, _, _, _, _, rfl, Number.zero_place, rfl, le_rfl, le_rfl⟩
  | some entry =>
    obtain ⟨⟨low, lowPlace⟩, high, highPlace⟩ := waveformTable_places (List.mem_of_find?_eq_some found)
    have lowest := Number.greatest_place lowPlace Number.zero_place
    have highest := Number.least_place highPlace (rfl : (Number.integer maximum).place = _)
    exact ⟨_, _, _, _, _, rfl, lowest, highest, le_max_right _ _, min_le_right _ _⟩

theorem frequencyErrors_eq {hertz maximum lowest highest step : Number} {waveform : Waveform}
    {channel : Int} (range : frequencyRange waveform maximum channel = .ok (lowest, highest, step)) :
    frequencyErrors hertz waveform maximum channel =
      (errors "frequency" s!"frequency < {lowest.text} Hz"
        s!"frequency > {highest.text} Hz for {waveform.name}" hertz lowest highest).mapError
        .arithmetic := by
  unfold frequencyErrors
  rw [range]
  rfl

theorem frequencyErrors_nil_iff {hertz maximum lowest highest step : Number} {waveform : Waveform}
    {channel low high : Int} (fits : hertz.Fits)
    (range : frequencyRange waveform maximum channel = .ok (lowest, highest, step))
    (lowPlace : lowest.place = .units low) (highPlace : highest.place = .units high) :
    frequencyErrors hertz waveform maximum channel = .ok [] ↔ Between lowest highest hertz := by
  obtain ⟨list, listed, passes⟩ := errors_exact fits lowPlace highPlace
  rw [frequencyErrors_eq range, listed, ← passes]
  exact ⟨fun same => Except.ok.inj same, congrArg Except.ok⟩

theorem mapError_eq_ok {ε δ α : Type} {f : ε → δ} {answer : Except ε α} {value : α}
    (given : answer.mapError f = .ok value) : answer = .ok value := by
  cases answer with
  | ok given' => exact congrArg _ (Except.ok.inj given)
  | error fault => cases given

theorem frequencyErrors_ok {hertz : Number} (fits : hertz.Fits) (waveform : Waveform) (maximum : Int)
    {channel : Int} (known : channel ∈ channels) :
    ∃ errors, frequencyErrors hertz waveform (.integer maximum) channel = .ok errors := by
  obtain ⟨lowest, highest, step, low, high, range, lowPlace, highPlace, _⟩ :=
    frequencyRange_bounds known
  obtain ⟨list, listed, _⟩ := errors_exact fits lowPlace highPlace
  rw [frequencyErrors_eq range, listed]
  exact ⟨list, rfl⟩

/-- Before the waveform is known, a frequency is only compared with zero and with the maximum of the
model. -/
theorem frequencyErrors_unknown {hertz : Number} (fits : hertz.Fits) (maximum : Int) {channel : Int}
    (known : channel ∈ channels) :
    ∃ errors, frequencyErrors hertz .unknown (.integer maximum) channel = .ok errors ∧
      (errors = [] ↔ Between 0 (.integer maximum) hertz) := by
  have range : frequencyRange .unknown (.integer maximum) channel =
      .ok (.real Binary64.zero, .integer maximum, .real microhertz) := by
    obtain ⟨name, table⟩ := channelTable_known known
    unfold frequencyRange
    rw [table]
    rfl
  have top : (Number.integer maximum).place = .units (maximum * unitsPerOne) := rfl
  obtain ⟨list, listed, passes⟩ := errors_exact fits Number.zero_place top
  refine ⟨list, ?_, passes.trans ?_⟩
  · rw [frequencyErrors_eq range, listed]
    rfl
  · have zero : (0 : Number).place = .units 0 := congrArg Place.units (Int.zero_mul _)
    unfold Number.Between
    rw [zero, Number.zero_place]

/-- A frequency that some waveform has lies between zero and the maximum of the model. -/
theorem frequency_between {hertz : Number} {waveform : Waveform} {maximum channel : Int}
    (known : channel ∈ channels)
    (given : frequencyErrors hertz waveform (.integer maximum) channel = .ok []) :
    Between 0 (.integer maximum) hertz := by
  obtain ⟨lowest, highest, step, low, high, range, lowPlace, highPlace, above, below⟩ :=
    frequencyRange_bounds known
  rw [frequencyErrors_eq range] at given
  obtain ⟨_, _, units, atLow, atHigh, placed, least, greatest⟩ :=
    between_of_errors (mapError_eq_ok given) lowPlace highPlace
  cases lowPlace.symm.trans atLow
  cases highPlace.symm.trans atHigh
  refine ⟨0, _, units, ?_, rfl, placed, above.trans least, greatest.trans below⟩
  exact congrArg Place.units (Int.zero_mul _)

end Limits

/-- A number can be divided by a whole one. -/
theorem Number.div_natural {n : Nat} {x : Binary64} (positive : 0 < n) (bits : n < 2 ^ 53) :
    (Number.real x).div (.integer n) =
      .ok (x.div (.finite false (n * unitsPerOne) (representable_whole bits))) := by
  have units := unitsPerOne_pos
  refine Number.div_eq rfl (Number.toReal_natural bits) nofun ?_
  simp only [Binary64.place, Place.isSame, Binary64.signed_false, decide_eq_false_iff_not,
    Place.units.injEq]
  have product := Nat.mul_pos positive units
  omega

namespace Scaling

/-- A value between zero and a whole number, scaled and rounded, is a natural number up to the exact
product. -/
theorem scaled_within {highest factor : Nat} {a : Number} (between : Between 0 (.integer highest) a)
    (small : factor < 2 ^ 53) (bits : 2 * (highest * factor) + 1 < 2 ^ 53) :
    ∃ n : Nat, (a.mul (.integer factor)).bind Number.roundAway = .ok (n : Int) ∧
      n ≤ highest * factor := by
  obtain ⟨product, multiplied, inside⟩ := Number.mul_within between small (by omega)
  obtain ⟨n, rounded, le⟩ := Number.roundAway_within inside bits
  refine ⟨n, ?_, le⟩
  rw [multiplied, Except.bind, rounded]

theorem encodeFrequency_within {hertz : Number} {highest : Nat}
    (between : Between 0 (.integer highest) hertz) (bits : highest ≤ 100000000) :
    ∃ n : Nat, encodeFrequency hertz = .ok (n : Int) ∧ n ≤ 100 * highest := by
  obtain ⟨n, encoded, le⟩ := @scaled_within _ 100 _ between (by norm_num) (by omega)
  exact ⟨n, encoded, Nat.mul_comm 100 highest ▸ le⟩

/-- The quotient of an integer of 28 digits is not too large for a number. -/
theorem quotient_ok {raw : Int} {den : Nat} (positive : 0 < den) (short : raw.natAbs < 10 ^ 28) :
    ∃ x, Number.quotient raw den = .ok x := by
  have divisor : 0 < (den : Int).natAbs := Int.natAbs_pos.mpr (by omega)
  obtain ⟨_, _, rounded, _⟩ := Binary64.ofQuotient_short
    (decide (raw < 0) != decide ((den : Int) < 0)) divisor (short.trans (by norm_num))
  unfold Number.quotient
  rw [if_neg (by omega), rounded, Number.finiteOr_finite]
  exact ⟨_, rfl⟩

theorem decodeFrequency_ok {raw : Int} (short : raw.natAbs < 10 ^ 28) :
    ∃ hertz, decodeFrequency raw = .ok hertz := @quotient_ok raw 100 (by norm_num) short

theorem decodeDutyCycle_ok {raw : Int} (short : raw.natAbs < 10 ^ 28) :
    ∃ percent, decodeDutyCycle raw = .ok percent := @quotient_ok raw 10 (by norm_num) short

theorem decodeAmplitude_ok {raw : Int} (short : raw.natAbs < 10 ^ 28) (attenuation : Attenuation) :
    ∃ amplitude, decodeAmplitude raw attenuation = .ok amplitude := by
  obtain ⟨volts, divided⟩ := @quotient_ok raw 100 (by norm_num) short
  have divided : Number.quotient raw 100 = .ok volts := divided
  cases attenuation with
  | zero =>
    have opened : decodeAmplitude raw .zero = (Number.quotient raw 100).bind .ok := rfl
    rw [opened, divided]
    exact ⟨volts, rfl⟩
  | minusTwenty =>
    have opened : decodeAmplitude raw .minusTwenty =
        (Number.quotient raw 100).bind fun volts => (Number.real volts).div (.integer 10) := rfl
    rw [opened, divided, Except.bind]
    exact ⟨_, @Number.div_natural 10 _ (by norm_num) (by norm_num)⟩

theorem decodeOffset_ok {raw : Int} (short : raw.natAbs < 10 ^ 28) (amplitude : Binary64) :
    ∃ volts, decodeOffset raw amplitude = .ok volts := by
  have narrow : (raw - offsetBias).natAbs < 10 ^ 29 := by
    unfold offsetBias
    omega
  obtain ⟨bias, converted⟩ := Number.toReal_short narrow
  have opened : decodeOffset raw amplitude =
      ((Number.real amplitude).mul (.integer (raw - offsetBias))).bind fun product =>
        product.div (.integer (100 : Nat)) := rfl
  rw [opened, Number.mul_eq converted, Except.bind]
  exact ⟨_, @Number.div_natural 100 _ (by norm_num) (by norm_num)⟩

theorem isSame_zero (a : Number) : a.isSame 0 = decide (a.place = .units 0) := by
  have zero : (0 : Number).place = .units 0 := congrArg Place.units (Int.zero_mul _)
  unfold Number.isSame
  rw [zero]
  cases a.place <;> rfl

/-- An offset has a share of an amplitude that is not zero; of no amplitude only no offset has one. -/
theorem offsetPercent_eq {volts : Number} {x amplitude : Binary64} (converted : volts.toReal = .ok x) :
    offsetPercent volts amplitude =
      if amplitude.place = .units 0 then
        if volts.place = .units 0 then .ok Binary64.zero else .error (.offsetWithoutAmplitude volts)
      else .ok ((x.div amplitude).mul hundred) := by
  unfold offsetPercent
  simp only [isSame_zero, decide_eq_true_eq, show (Number.real amplitude).place = amplitude.place from rfl]
  by_cases flat : amplitude.place = .units 0
  · rw [if_pos flat, if_pos flat]
  · have nonzero : amplitude.place.isSame (.units 0) = false := by
      cases placed : amplitude.place with
      | units n => exact decide_eq_false fun same => flat (placed.trans same)
      | _ => rfl
    have divided : volts.div amplitude = .ok (x.div amplitude) :=
      Number.div_eq converted rfl nofun nonzero
    rw [if_neg flat, if_neg flat, divided]
    rfl

/-- The amplitude on the line for 20 V. -/
def highestAmplitude : Attenuation → Nat
  | .minusTwenty => 20000
  | .zero => 2000

theorem highestAmplitude_le (attenuation : Attenuation) : highestAmplitude attenuation ≤ 20000 := by
  cases attenuation <;> decide

theorem encodeAmplitude_within {volts : Number} (between : Between 0 20 volts)
    (attenuation : Attenuation) :
    ∃ n : Nat, encodeAmplitude volts attenuation = .ok (n : Int) ∧ n ≤ highestAmplitude attenuation := by
  cases attenuation with
  | minusTwenty => exact @scaled_within 20 1000 _ between (by norm_num) (by norm_num)
  | zero => exact @scaled_within 20 100 _ between (by norm_num) (by norm_num)

theorem encodeDutyCycle_within {percent : Number} (between : Between 0 100 percent) :
    ∃ n : Nat, encodeDutyCycle percent = .ok (n : Int) ∧ n ≤ 1000 :=
  @scaled_within 100 10 _ between (by norm_num) (by norm_num)

/-- An offset within 120 percent either way is raised to a natural number up to 240. -/
theorem encodeOffsetPercent_within {percent : Binary64}
    (between : Between (.integer (-120)) 120 (.real percent)) :
    ∃ n : Nat, encodeOffsetPercent (.real percent) = .ok (n : Int) ∧ n ≤ 240 := by
  obtain ⟨negative, units, representable, rfl⟩ := between.finite
  obtain ⟨_, ⟨⟩, above, below⟩ := (@Number.between_integers (-120) 120 _).mp between
  have bias : Representable (120 * unitsPerOne) := representable_whole (by norm_num)
  have converted : (Number.integer offsetBias).toReal = .ok (.finite false (120 * unitsPerOne) bias) :=
    @Number.toReal_natural 120 (by norm_num)
  have exact : (Binary64.signed negative units + Binary64.signed false (120 * unitsPerOne)).natAbs ≤
      240 * unitsPerOne := by
    rw [Binary64.signed_false]
    omega
  obtain ⟨minus, sum, fits, added, le, sign⟩ := Binary64.add_bounded representable bias
    (representable_whole (by norm_num)) exact
  have raised : (Number.real (.finite negative units representable)).add (.integer offsetBias) =
      .ok (.real (.finite minus sum fits)) := by
    rw [Number.add_eq converted, added]
  have inside : Between 0 (.integer (240 : Nat)) (.real (.finite minus sum fits)) := by
    refine Number.finite_between.mpr ⟨le, sign ?_⟩
    rw [Binary64.signed_false]
    omega
  obtain ⟨n, rounded, bound⟩ := Number.roundAway_within inside (by norm_num)
  have encoded : encodeOffsetPercent (.real (.finite negative units representable)) =
      ((Number.real (.finite negative units representable)).add (.integer offsetBias)).bind
        Number.roundAway := rfl
  refine ⟨n, ?_, bound⟩
  rw [encoded, raised, Except.bind, rounded]

theorem repeatWhile_within (condition : Binary64 → Bool) {step : Binary64 → Binary64} {size : Nat}
    (grows : ∀ {bound x}, bound + size < 2 ^ 53 → Within bound x → Within (bound + size) (step x)) :
    ∀ (limit : Nat) {bound : Nat} {x : Binary64}, bound + limit * size < 2 ^ 53 → Within bound x →
      ∃ last ≤ bound + limit * size, Within last (repeatWhile condition step limit x)
  | 0, bound, x, bits, within => ⟨bound, by omega, within⟩
  | limit + 1, bound, x, bits, within => by
    have total : bound + (limit + 1) * size = bound + size + limit * size := by ring
    unfold repeatWhile
    split
    · obtain ⟨last, le, reached⟩ := repeatWhile_within condition grows limit (total ▸ bits) (grows (by omega) within)
      exact ⟨last, total ▸ le, reached⟩
    · exact ⟨bound, by omega, within⟩

theorem zero_within : Within 0 Binary64.zero := by
  unfold Binary64.zero
  exact ⟨_, _, representable_zero, Binary64.ofUnits_eq _, Nat.zero_le _⟩

/-- The angle for a finite phase is finite, within the turns that are added and taken away. -/
theorem wrapAngle_within {angle : Binary64} (finite : angle.isFinite = true) :
    ∃ bound ≤ 1800, Within bound (wrapAngle angle) := by
  have turn : Within 360 fullTurn := Binary64.within_ofInt (by norm_num)
  have shifted : (angle.sub Binary64.zero).isFinite = true := by
    cases angle with
    | finite negative units fits =>
      obtain ⟨minus, none, atZero, same, le⟩ := zero_within.neg
      have exact : (Binary64.signed negative units + Binary64.signed minus none).natAbs ≤ units := by
        rw [Nat.zero_mul, Nat.le_zero] at le
        subst le
        cases negative <;> cases minus <;> simp
      obtain ⟨_, _, _, added, _⟩ := Binary64.add_bounded fits atZero fits exact
      rw [Binary64.sub, same, added]
      rfl
    | infinite negative => cases finite
    | nan => cases finite
  have nonzero : fullTurn.place ≠ .units 0 := by
    unfold fullTurn
    rw [Binary64.ofInt_eq (by norm_num)]
    intro same
    have positive := unitsPerOne_pos
    simp only [Binary64.place, Place.units.injEq, Int.reduceLT, decide_false, Binary64.signed_false,
      show Int.natAbs 360 = 360 from rfl] at same
    omega
  have remainder := zero_within.add (Within.rem shifted turn nonzero) (by norm_num)
  obtain ⟨bound, le, raised⟩ := repeatWhile_within (fun x => x.place.isLess Binary64.zero.place)
    (fun bits within => within.add turn bits) 2 (by norm_num) remainder
  obtain ⟨last, le, lowered⟩ := repeatWhile_within (fun x => !x.place.isLess fullTurn.place)
    (fun bits within => within.sub turn bits) 2 (by omega) raised
  exact ⟨last, by omega, lowered⟩

theorem encodePhase_eq (degrees : Number) :
    encodePhase degrees = (normalizePhase degrees).bind fun angle =>
      (((Number.real angle).roundAway).mapError Fault.arithmetic).bind fun nearest =>
        .ok (nearest % 360) := rfl

/-- A phase is sent as a whole number of degrees below a full turn. -/
theorem encodePhase_range {degrees : Number} {raw : Int} (encoded : encodePhase degrees = .ok raw) :
    ∃ n : Nat, raw = n ∧ n ≤ 359 := by
  rw [encodePhase_eq] at encoded
  cases normalized : normalizePhase degrees with
  | error fault =>
    rw [normalized] at encoded
    cases encoded
  | ok angle =>
    rw [normalized, Except.bind] at encoded
    cases rounded : (Number.real angle).roundAway with
    | error fault =>
      rw [rounded] at encoded
      cases encoded
    | ok nearest =>
      rw [rounded] at encoded
      have same : nearest % 360 = raw := Except.ok.inj encoded
      subst same
      exact ⟨(nearest % 360).toNat, by omega, by omega⟩

theorem normalizePhase_eq {degrees : Number} {angle : Binary64} (converted : degrees.toReal = .ok angle) :
    normalizePhase degrees =
      if angle.isFinite then .ok (wrapAngle angle)
      else .error (.notFinite s!"phase {degrees.text} degrees") := by
  unfold normalizePhase
  rw [converted]

/-- Every finite phase can be sent. -/
theorem encodePhase_finite {degrees : Number} {angle : Binary64} (converted : degrees.toReal = .ok angle)
    (finite : angle.isFinite = true) : ∃ raw, encodePhase degrees = .ok raw := by
  obtain ⟨bound, le, within⟩ := wrapAngle_within finite
  obtain ⟨nearest, rounded⟩ := Number.roundAway_of_within within (by omega)
  refine ⟨nearest % 360, ?_⟩
  rw [encodePhase_eq, normalizePhase_eq converted, if_pos finite, Except.bind, rounded]
  rfl

theorem encodePhase_infinite {degrees : Number} {angle : Binary64} (converted : degrees.toReal = .ok angle)
    (infinite : angle.isFinite = false) :
    encodePhase degrees = .error (.notFinite s!"phase {degrees.text} degrees") := by
  rw [encodePhase_eq, normalizePhase_eq converted, infinite]
  rfl

/-- Only a finite phase can be sent. -/
theorem finite_of_encodePhase {degrees : Number} {raw : Int} (encoded : encodePhase degrees = .ok raw) :
    degrees.Finite := by
  cases converted : degrees.toReal with
  | error fault =>
    have stopped : normalizePhase degrees = .error (.arithmetic fault) := by
      unfold normalizePhase
      rw [converted]
    rw [encodePhase_eq, stopped] at encoded
    cases encoded
  | ok angle =>
    refine (Number.isFinite_iff converted).mp ?_
    by_contra lost
    rw [encodePhase_infinite converted (Bool.eq_false_iff.mpr lost)] at encoded
    cases encoded

end Scaling

end SignalGenerator
