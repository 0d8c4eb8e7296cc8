import SignalGenerator.Proofs.Attainable
import SignalGenerator.Proofs.WriteBack

/-!
The frequency that is sent for one that was accepted. A frequency is checked in hertz and sent in
hundredths of a hertz, after two roundings. Rounding keeps the order, so that what lies below the end of
the range is not sent above it, and one frequency divides those that are sent as zero from the others.
-/

namespace SignalGenerator

open Number (Between Fits)

theorem unitsPerOne_dvd_two_pow {k : Nat} (large : 1074 ≤ k) : unitsPerOne ∣ 2 ^ k := by
  rw [unitsPerOne_eq]
  exact Nat.pow_dvd_pow 2 large

/-- Between a whole number and a larger power of two there is room for the next whole number. -/
theorem whole_succ_le {n k : Nat} (large : 1074 ≤ k) (below : n * unitsPerOne < 2 ^ k) :
    (n + 1) * unitsPerOne ≤ 2 ^ k := by
  obtain ⟨count, power⟩ := unitsPerOne_dvd_two_pow large
  rw [power, Nat.mul_comm] at below
  rw [power, Nat.mul_comm]
  exact Nat.mul_le_mul_left unitsPerOne (Nat.lt_of_mul_lt_mul_left below)

/-- The grid does not change between an even magnitude and the half above it. -/
theorem spacing_add_half {n : Nat} (large : 2 ^ 52 ≤ n) :
    unitsPerOne ∣ spacing (n * unitsPerOne) ∧
      spacing (n * unitsPerOne + 2 ^ 1073) = spacing (n * unitsPerOne) := by
  have halves := Number.unitsPerOne_eq_halves
  have positive : 0 < 2 ^ 1073 := Nat.two_pow_pos 1073
  have nonzero : n * unitsPerOne ≠ 0 := Nat.mul_ne_zero (by omega) unitsPerOne_pos.ne'
  have log : 1126 ≤ (n * unitsPerOne).log2 := by
    rw [Nat.le_log2 nonzero, unitsPerOne_eq, show 1126 = 52 + 1074 from rfl, Nat.pow_add]
    exact Nat.mul_le_mul_right _ large
  have next : n * unitsPerOne + 2 ^ 1073 < 2 ^ ((n * unitsPerOne).log2 + 1) := by
    refine Nat.lt_of_lt_of_le ?_ (whole_succ_le (by omega) Nat.lt_log2_self)
    rw [Nat.succ_mul]
    omega
  have same : (n * unitsPerOne + 2 ^ 1073).log2 = (n * unitsPerOne).log2 := by
    refine Nat.le_antisymm ?_ (log2_le_log2 (Nat.le_add_right _ _))
    exact Nat.lt_succ_iff.mp ((Nat.log2_lt (by omega)).mpr next)
  exact ⟨unitsPerOne_dvd_two_pow (by omega), by rw [spacing, same, spacing]⟩

/-- A whole number with one half added is rounded so that nothing changes before the point: one half is
kept, or it is a tie with an even neighbour, or it is less than half a step. -/
theorem roundUnits_add_half {n : Nat} (even : 2 ∣ n) (fits : Representable (n * unitsPerOne)) :
    roundUnits (n * unitsPerOne + 2 ^ 1073) 1 / unitsPerOne = n := by
  have halves := Number.unitsPerOne_eq_halves
  have positive : 0 < 2 ^ 1073 := Nat.two_pow_pos 1073
  by_cases narrow : 2 * n + 1 < 2 ^ 53
  · have exact : n * unitsPerOne + 2 ^ 1073 = (2 * n + 1) * 2 ^ 1073 * 1 := by
      rw [halves]
      ring
    rw [exact, roundUnits_eq_self Nat.one_pos (representable_halves narrow).grid, halves]
    generalize 2 ^ 1073 = half at positive
    refine Nat.div_eq_of_lt_le ?_ ?_ <;> nlinarith
  · obtain ⟨coarse, same⟩ := spacing_add_half (by omega : 2 ^ 52 ≤ n)
    obtain ⟨count, whole⟩ := fits.grid
    have rounded : roundUnits (n * unitsPerOne + 2 ^ 1073) 1 = n * unitsPerOne := by
      unfold roundUnits
      dsimp only
      rw [Nat.div_one, same, Nat.one_mul]
      have le := Nat.le_of_dvd (spacing_pos _) coarse
      generalize spacing (n * unitsPerOne) = step at le whole
      rw [whole, nearestEven_of_rest, Nat.mul_comm]
      rcases Nat.lt_or_eq_of_le le with less | equal
      · exact Or.inl (by omega)
      · subst equal
        have unit := unitsPerOne_pos
        generalize unitsPerOne = one at whole halves unit
        have counted : n = count := Nat.eq_of_mul_eq_mul_left unit ((Nat.mul_comm one n).trans whole)
        exact Or.inr ⟨halves.symm, positive, counted ▸ even⟩
    rw [rounded, Nat.mul_div_cancel _ unitsPerOne_pos]

namespace Scaling

/-- The number that is sent for a frequency of so many units: its hundredfold is rounded, one half is
added, and the sum is rounded. -/
def sentFor (units : Nat) : Nat :=
  roundUnits (roundUnits (units * (100 * unitsPerOne)) unitsPerOne + 2 ^ 1073) 1 / unitsPerOne

theorem sentFor_mono {first second : Nat} (le : first ≤ second) : sentFor first ≤ sentFor second := by
  have products := roundUnits_mono unitsPerOne_pos (Nat.mul_le_mul_right (100 * unitsPerOne) le)
  exact Nat.div_le_div_right (roundUnits_mono Nat.one_pos (Nat.add_le_add_right products _))

theorem sentFor_zero : sentFor 0 = 0 := by decide +kernel

/-- The lowest frequency that is not sent as zero, 0.004999999999999999 Hz. The next lower number is
0.004999999999999998. -/
def leastSent : Binary64 := Binary64.ofDecimal false 4999999999999999 (-18)

def leastUnits : Nat := roundUnits (4999999999999999 * unitsPerOne) (10 ^ 18)

theorem leastSent_place : (Number.real leastSent).place = .units leastUnits := by decide +kernel

theorem sentFor_leastUnits :
    sentFor leastUnits = 1 ∧ sentFor (leastUnits - spacing leastUnits) = 0 := by decide +kernel

theorem sentFor_pos_iff {units : Nat} (fits : Representable units) :
    1 ≤ sentFor units ↔ leastUnits ≤ units := by
  constructor
  · intro sent
    by_contra below
    have less := fits.le_sub_spacing (by decide +kernel) (by decide +kernel) (Nat.lt_of_not_le below)
    have none := sentFor_mono less
    rw [sentFor_leastUnits.2] at none
    omega
  · intro above
    have sent := sentFor_mono above
    rwa [sentFor_leastUnits.1] at sent

variable {top : Nat} (hundredfold : Representable (100 * top * unitsPerOne))
include hundredfold

theorem sentFor_whole : sentFor (top * unitsPerOne) = 100 * top := by
  have product : top * unitsPerOne * (100 * unitsPerOne) = 100 * top * unitsPerOne * unitsPerOne := by ring
  rw [sentFor, product, roundUnits_eq_self unitsPerOne_pos hundredfold.grid]
  exact roundUnits_add_half (Dvd.dvd.mul_right (by norm_num) top) hundredfold

/-- What a frequency up to a whole number of hertz is encoded to. -/
theorem encodeFrequency_sentFor {negative : Bool} {units : Nat} {fits : Representable units}
    (between : Between 0 (.integer top) (.real (.finite negative units fits))) :
    encodeFrequency (.real (.finite negative units fits)) = .ok (sentFor units : Int) := by
  obtain ⟨below, sign⟩ := Number.finite_between.mp between
  have exact : units * (100 * unitsPerOne) ≤ 100 * top * unitsPerOne * unitsPerOne := by
    calc units * (100 * unitsPerOne) ≤ top * unitsPerOne * (100 * unitsPerOne) :=
          Nat.mul_le_mul_right _ below
      _ = 100 * top * unitsPerOne * unitsPerOne := by ring
  obtain ⟨narrow, rounded, _⟩ :=
    Binary64.ofQuotient_bounded (negative != false) unitsPerOne_pos hundredfold exact
  have fitsSum : Representable
      (roundUnits (roundUnits (units * (100 * unitsPerOne)) unitsPerOne + 2 ^ 1073) 1) := by
    refine ⟨?_, spacing_dvd_roundUnits _ _ Nat.one_pos⟩
    have whole : sentFor units < 100 * top + 1 :=
      Nat.lt_succ_of_le ((sentFor_mono below).trans (sentFor_whole hundredfold).le)
    have limit : 100 * top * unitsPerOne < 2 ^ 2098 := by
      have finite := hundredfold.1
      rwa [Nat.pow_eq] at finite
    have room := whole_succ_le (by norm_num) limit
    rw [Nat.pow_eq]
    exact (Nat.lt_mul_of_div_lt whole unitsPerOne_pos).trans_le room
  have floored : Number.floorOf ((Binary64.finite false _ narrow).add Number.half) =
      .ok (sentFor units : Int) := by
    rw [Number.half_eq, Binary64.add_positive (by rw [Nat.one_mul]; exact Nat.two_pow_pos _), Nat.one_mul,
      Binary64.ofQuotient, Binary64.ofUnits_eq fitsSum]
    rfl
  have product : (Number.real (.finite negative units fits)).mul (.integer (100 : Nat)) =
      .ok (.real (.finite (negative != false) _ narrow)) := by
    rw [Number.mul_eq (Number.toReal_natural (by norm_num)), ← rounded]
    rfl
  rw [encodeFrequency_eq, product, Except.bind, Number.roundAway_eq rfl floored]
  cases negative with
  | false => rfl
  | true =>
    have none : sentFor units = 0 := by
      rw [sign rfl, sentFor_zero]
    rw [none]
    rfl

end Scaling

/-- A waveform of the table. For any other one only the maximum of the model counts. -/
def Waveform.Listed (waveform : Waveform) : Prop := ∃ entry ∈ waveformTable, entry.waveform = waveform

namespace Limits

theorem waveformTable_highest {entry : WaveformRange} (member : entry ∈ waveformTable) :
    ∃ count ≤ 25, entry.highest = megahertz count := by
  simp only [waveformTable, List.mem_cons, List.not_mem_nil, or_false] at member
  rcases member with rfl | rfl | rfl | rfl | rfl
  all_goals dsimp only
  · exact ⟨25, le_rfl, rfl⟩
  all_goals exact ⟨10, by norm_num, rfl⟩

theorem megahertz_whole {count : Nat} (few : count ≤ 25) :
    (Number.real (megahertz count)).place = .units ((count * 1000000 : Nat) * unitsPerOne) := by
  unfold megahertz
  rw [Binary64.ofInt_eq (by omega), Number.place_finite, decide_eq_false (by omega), Binary64.signed_false]
  rw [Int.natCast_mul]
  congr 2

/-- The frequencies of a waveform go from `low` units up to `top` hertz. They begin above zero for a
waveform of the table, and with zero for any other one. -/
structure Spans (waveform : Waveform) (maximum : Nat) (channel low : Int) (top : Nat) : Prop where
  errors_iff : ∀ hertz : Binary64,
    frequencyErrors (.real hertz) waveform (.integer maximum) channel = .ok [] ↔
      ∃ units, (Number.real hertz).place = .units units ∧ low ≤ units ∧ units ≤ top * unitsPerOne
  kind : (waveform.Listed ∧ (Number.real microhertz).place = .units low ∧ 0 < low ∧ top ≤ 25000000) ∨
    (¬ waveform.Listed ∧ low = 0 ∧ top = maximum)

theorem frequencyErrors_iff_units {hertz : Binary64} {waveform : Waveform}
    {maximum lowest highest step : Number} {channel low high : Int}
    (range : frequencyRange waveform maximum channel = .ok (lowest, highest, step))
    (lowPlace : lowest.place = .units low) (highPlace : highest.place = .units high) :
    frequencyErrors (.real hertz) waveform maximum channel = .ok [] ↔
      ∃ units, (Number.real hertz).place = .units units ∧ low ≤ units ∧ units ≤ high := by
  rw [frequencyErrors_nil_iff (Number.fits_real hertz) range lowPlace highPlace]
  constructor
  · rintro ⟨_, _, units, atLow, atHigh, placed, least, most⟩
    cases lowPlace.symm.trans atLow
    cases highPlace.symm.trans atHigh
    exact ⟨units, placed, least, most⟩
  · rintro ⟨units, placed, least, most⟩
    exact ⟨low, high, units, lowPlace, highPlace, placed, least, most⟩

theorem microhertz_pos {low : Int} (lowest : (Number.real microhertz).place = .units low) : 0 < low := by
  have less : Place.isLess (.units 0) (Number.real microhertz).place = true := by decide +kernel
  rw [lowest] at less
  exact of_decide_eq_true less

theorem exists_spans (waveform : Waveform) (maximum : Nat) {channel : Int} (known : channel ∈ channels) :
    ∃ low top, Spans waveform maximum channel low top := by
  obtain ⟨name, table⟩ := channelTable_known known
  cases found : waveformTable.find? fun entry => decide (entry.waveform = waveform) with
  | none =>
    have range : frequencyRange waveform (.integer maximum) channel =
        .ok (.real Binary64.zero, .integer maximum, .real microhertz) := by
      simp only [frequencyRange, table, ChannelTable.find?, found]
    have unlisted : ¬ waveform.Listed := by
      rintro ⟨entry, member, same⟩
      exact List.find?_eq_none.mp found entry member (decide_eq_true same)
    exact ⟨0, maximum, fun _ => frequencyErrors_iff_units range Number.zero_place rfl,
      Or.inr ⟨unlisted, rfl, rfl⟩⟩
  | some entry =>
    have range : frequencyRange waveform (.integer maximum) channel =
        .ok ((Number.real entry.lowest).greatest (.real Binary64.zero),
          (Number.real entry.highest).least (.integer maximum), .real entry.step) := by
      simp only [frequencyRange, table, ChannelTable.find?, found]
    have member := List.mem_of_find?_eq_some found
    have same := List.find?_some found
    obtain ⟨low, lowest⟩ := microhertz_place
    have positive := microhertz_pos lowest
    obtain ⟨count, few, high⟩ := waveformTable_highest member
    have atLow := Number.greatest_place lowest Number.zero_place
    rw [max_eq_left positive.le, ← waveformTable_lowest member] at atLow
    have atHigh := Number.least_place (megahertz_whole few)
      (rfl : (Number.integer maximum).place = .units (maximum * unitsPerOne))
    rw [← min_mul_of_nonneg _ _ (Int.natCast_nonneg _), ← Nat.cast_min, ← high] at atHigh
    exact ⟨low, min (count * 1000000) maximum, fun _ => frequencyErrors_iff_units range atLow atHigh,
      Or.inl ⟨⟨entry, member, of_decide_eq_true same⟩, lowest, positive, by omega⟩⟩

/-- 53 bits, with zeros behind them, are a representable whole number. -/
theorem representable_zeros {n k : Nat} (bits : n < 2 ^ 53) (place : k ≤ 971) :
    Representable (n * 2 ^ k * unitsPerOne) := by
  rw [unitsPerOne_eq, Nat.mul_assoc, ← Nat.pow_add]
  exact representable_mul_two_pow bits (by omega)

/-- The end of the range and its hundredfold are representable. -/
theorem representable_hertz {megahertz : Nat} (size : megahertz * 5 ^ 8 < 2 ^ 53) :
    Representable (100 * (megahertz * 1000000) * unitsPerOne) ∧
      Representable (megahertz * 1000000 * unitsPerOne) := by
  have shorter : megahertz * 5 ^ 6 < 2 ^ 53 :=
    (Nat.mul_le_mul_left megahertz (by norm_num)).trans_lt size
  rw [show 100 * (megahertz * 1000000) = megahertz * 5 ^ 8 * 2 ^ 8 by ring,
    show megahertz * 1000000 = megahertz * 5 ^ 6 * 2 ^ 6 by ring]
  exact ⟨representable_zeros size (by norm_num), representable_zeros shorter (by norm_num)⟩

/-- What is sent is read as zero, or as a frequency of the table at least. -/
theorem microhertz_le_iff {low : Int} (lowest : (Number.real microhertz).place = .units low)
    (positive : 0 < low) (raw : Nat) : low ≤ roundUnits (raw * unitsPerOne) 100 ↔ 1 ≤ raw := by
  constructor
  · intro above
    by_contra none
    have zero : raw * unitsPerOne ≤ 0 * 100 := by
      rw [Nat.eq_zero_of_not_pos none, Nat.zero_mul]
    have flat := roundUnits_le (by norm_num : 0 < 100) (Nat.dvd_zero _) zero
    omega
  · intro some
    obtain ⟨micro, placed, above⟩ := microhertz_le some
    cases lowest.symm.trans placed
    exact above

theorem isLess_leastSent {negative : Bool} {units : Nat} {fits : Representable units}
    (sign : negative = true → units = 0) :
    (Number.real (.finite negative units fits)).isLess (.real Scaling.leastSent) = false ↔
      Scaling.leastUnits ≤ units := by
  have signed : Binary64.signed negative units = units := by
    cases negative with
    | false => rfl
    | true =>
      rw [sign rfl]
      rfl
  rw [Number.isLess, Scaling.leastSent_place, Number.place_finite, signed, Place.isLess,
    decide_eq_false_iff_not, not_lt, Int.ofNat_le]

section

variable {waveform : Waveform} {channel low : Int} {top : Nat}

theorem Spans.nonnegative {maximum : Nat} (spans : Spans waveform maximum channel low top) : 0 ≤ low := by
  rcases spans.kind with ⟨_, _, positive, _⟩ | ⟨_, rfl, _⟩
  · exact positive.le
  · exact le_rfl

theorem Spans.representable {megahertz : Nat}
    (spans : Spans waveform (megahertz * 1000000) channel low top)
    (size : waveform.Listed ∨ megahertz * 5 ^ 8 < 2 ^ 53) :
    Representable (100 * top * unitsPerOne) ∧ Representable (top * unitsPerOne) := by
  rcases spans.kind with ⟨_, _, _, few⟩ | ⟨unlisted, _, rfl⟩
  · exact ⟨representable_whole (by omega), representable_whole (by omega)⟩
  · exact representable_hertz (size.resolve_left unlisted)

/-- What a number on the line stands for is acceptable, but for zero where a waveform has a lowest
frequency. -/
theorem Spans.decoded_iff {maximum raw : Nat} (spans : Spans waveform maximum channel low top)
    {fits : Representable (roundUnits (raw * unitsPerOne) 100)}
    (bounded : roundUnits (raw * unitsPerOne) 100 ≤ top * unitsPerOne) :
    frequencyErrors (.real (.finite false _ fits)) waveform (.integer maximum) channel = .ok [] ↔
      (waveform.Listed → 1 ≤ raw) := by
  have inside : frequencyErrors (.real (.finite false _ fits)) waveform (.integer maximum) channel =
      .ok [] ↔ low ≤ roundUnits (raw * unitsPerOne) 100 := by
    rw [spans.errors_iff]
    constructor
    · rintro ⟨_, placed, least, _⟩
      cases Number.place_finite.symm.trans placed
      exact least
    · exact fun least => ⟨_, Number.place_finite, least, Int.ofNat_le.mpr bounded⟩
  rw [inside]
  rcases spans.kind with ⟨listed, placed, positive, _⟩ | ⟨unlisted, rfl, _⟩
  · rw [microhertz_le_iff placed positive]
    exact ⟨fun some _ => some, fun some => some listed⟩
  · exact ⟨fun _ listed => absurd listed unlisted, fun _ => Int.natCast_nonneg _⟩

end

/-- A frequency that was accepted is sent as one that is accepted as well, unless the waveform has a
lowest frequency and the rounded hundredths of a hertz are none at all. -/
theorem frequency_sent {channel : Int} {megahertz : Nat} {waveform : Waveform} {hertz : Binary64}
    (known : channel ∈ channels) (size : waveform.Listed ∨ megahertz * 5 ^ 8 < 2 ^ 53)
    (accepted : frequencyErrors (.real hertz) waveform (.integer (megahertz * 1000000 : Nat)) channel =
      .ok []) :
    ∃ raw back, Scaling.encodeFrequency (.real hertz) = .ok raw ∧ Scaling.decodeFrequency raw = .ok back ∧
      (frequencyErrors (.real back) waveform (.integer (megahertz * 1000000 : Nat)) channel = .ok [] ↔
        (waveform.Listed → (Number.real hertz).isLess (.real Scaling.leastSent) = false)) := by
  obtain ⟨low, top, spans⟩ := exists_spans waveform (megahertz * 1000000) known
  obtain ⟨hundredfold, whole⟩ := spans.representable size
  obtain ⟨place, placed, least, most⟩ := (spans.errors_iff hertz).mp accepted
  have between : Between 0 (.integer top) (.real hertz) :=
    ⟨0, _, place, congrArg Place.units (Int.zero_mul _), rfl, placed, spans.nonnegative.trans least, most⟩
  obtain ⟨negative, units, fits, rfl⟩ := between.finite
  obtain ⟨below, sign⟩ := Number.finite_between.mp between
  have hundredths : Scaling.sentFor units ≤ top * 100 := by
    rw [Nat.mul_comm, ← Scaling.sentFor_whole hundredfold]
    exact Scaling.sentFor_mono below
  obtain ⟨narrow, decoded, bounded⟩ :=
    Number.quotient_natural (by norm_num : 0 < 100) whole hundredths
  refine ⟨_, _, Scaling.encodeFrequency_sentFor hundredfold between, decoded, ?_⟩
  rw [spans.decoded_iff bounded, isLess_leastSent sign, Scaling.sentFor_pos_iff fits]

end Limits

namespace Operation

/-- What setting a frequency writes. Nothing at all, or only the question for the waveform, or the
number that the frequency is encoded to, which stands for an acceptable frequency of this waveform as
long as it is not zero where the waveform has a lowest frequency. -/
theorem setFrequency_sends {port : Port} {identity : Identity} {channel : Int} {hertz : Binary64}
    {early steps : List Step} {ending : Outcome Reading} (known : channel ∈ channels)
    (identified : (Identity.identify port).Runs early (.result identity))
    (run : ((setFrequency channel (.real hertz)).perform ⟨port, identity⟩).Runs steps ending) :
    WritesExactly port [] (portCalls steps) ∨
    WritesExactly port [.read channel .waveform] (portCalls steps) ∨
    ∃ n raw back first rest, portCalls steps = first ++ rest ∧
      Exchanged port (.read channel .waveform) n first ∧
      WritesExactly port [.read channel .waveform, .set channel .frequency raw] (portCalls steps) ∧
      Scaling.decodeFrequency raw = .ok back ∧
      (Limits.frequencyErrors (.real back) (.ofId n) identity.maxFrequency channel = .ok [] ↔
        ((Waveform.ofId n).Listed → (Number.real hertz).isLess (.real Scaling.leastSent) = false)) := by
  have fits : ∀ number, (setFrequency channel (.real hertz)).argument? = some number → number.Fits := by
    rintro _ ⟨⟩
    exact Number.fits_real hertz
  obtain ⟨megahertz, le, model, wrong, right, _⟩ := validation_exact identified fits run
  by_cases unfit : (setFrequency channel (.real hertz)).Wrong (megahertz * 1000000)
  · left
    rw [(wrong unfit).1]
    exact .nil
  have carried := right rfl unfit
  generalize portCalls steps = calls at carried ⊢
  cases carried with
  | frequencyUnread made => exact Or.inr (Or.inl made.writes)
  | frequencyRefused exchanged _ _ _ => exact Or.inr (Or.inl exchanged.writes)
  | @frequency _ _ n raw first rest _ exchanged accepted encoded sent =>
    obtain ⟨_, back, again, decoded, within⟩ :=
      Limits.frequency_sent known (Or.inr (by omega)) accepted
    cases Except.ok.inj (encoded.symm.trans again)
    refine Or.inr (Or.inr ⟨n, raw, back, first, rest, rfl, exchanged,
      exchanged.writes.append sent.writes, decoded, ?_⟩)
    rw [model]
    exact within

/-- Whether an accepted frequency is sent as an acceptable one. For a waveform of the table it is from
`leastSent` on; below, zero is sent. For any other waveform it always is, as long as the hundredfold of
the maximum is exact. No more is sent when a frequency is set. -/
theorem sent_frequency_acceptable_iff {channel : Int} (known : channel ∈ channels) (hertz : Binary64) :
    (∀ (megahertz : Nat) (waveform : Waveform), waveform.Listed ∨ megahertz * 5 ^ 8 < 2 ^ 53 →
      Limits.frequencyErrors (.real hertz) waveform (.integer (megahertz * 1000000 : Nat)) channel = .ok [] →
      ∃ raw back, Scaling.encodeFrequency (.real hertz) = .ok raw ∧ Scaling.decodeFrequency raw = .ok back ∧
        (Limits.frequencyErrors (.real back) waveform (.integer (megahertz * 1000000 : Nat)) channel =
            .ok [] ↔
          (waveform.Listed → (Number.real hertz).isLess (.real Scaling.leastSent) = false))) ∧
    ∀ (port : Port) (identity : Identity) (early steps : List Step) (ending : Outcome Reading),
      (Identity.identify port).Runs early (.result identity) →
      ((setFrequency channel (.real hertz)).perform ⟨port, identity⟩).Runs steps ending →
      WritesExactly port [] (portCalls steps) ∨
      WritesExactly port [.read channel .waveform] (portCalls steps) ∨
      ∃ n raw back first rest, portCalls steps = first ++ rest ∧
        Exchanged port (.read channel .waveform) n first ∧
        WritesExactly port [.read channel .waveform, .set channel .frequency raw] (portCalls steps) ∧
        Scaling.decodeFrequency raw = .ok back ∧
        (Limits.frequencyErrors (.real back) (.ofId n) identity.maxFrequency channel = .ok [] ↔
          ((Waveform.ofId n).Listed → (Number.real hertz).isLess (.real Scaling.leastSent) = false)) :=
  ⟨fun _ _ size accepted => Limits.frequency_sent known size accepted,
    fun _ _ _ _ _ identified run => setFrequency_sends known identified run⟩

/-- The lowest frequency that is sent as one hundredth of a hertz. -/
theorem sent_frequency_acceptable_least :
    (1 : Int) ∈ channels ∧ ∃ back, Scaling.encodeFrequency (.real Scaling.leastSent) = .ok 1 ∧
      Scaling.decodeFrequency 1 = .ok back ∧
      Limits.frequencyErrors (.real back) .sine (.integer (25 * 1000000 : Nat)) 1 = .ok [] := by
  have known : (1 : Int) ∈ channels := by decide
  have sine : Waveform.sine.Listed := ⟨_, List.mem_cons_self, rfl⟩
  obtain ⟨raw, back, encoded, decoded, again⟩ := (sent_frequency_acceptable_iff known Scaling.leastSent).1 25
    .sine (Or.inl sine) (by decide +kernel)
  have one : Scaling.encodeFrequency (.real Scaling.leastSent) = .ok 1 := by decide +kernel
  cases Except.ok.inj (one.symm.trans encoded)
  exact ⟨known, back, one, decoded, again.mpr fun _ => by decide +kernel⟩

/-- A thousandth of a hertz is accepted for the sine, and zero is sent, which the sine cannot do. With
a maximum whose hundredfold is rounded up, a frequency is sent that is above the maximum. -/
theorem thousandth_sent_as_zero :
    let hertz : Number := .real (.ofDecimal false 1 (-3))
    let port : Port := ⟨0, "bench"⟩
    let generator : Generator := ⟨port, ⟨"MHS-25A00", .integer 25000000⟩⟩
    let program := (setFrequency 1 hertz).perform generator
    let bench := Bench.answering [":r1w0\r\n", "ok\r\n"]
    let maximum : Number := .integer 23069566767000000
    let beyond : Binary64 := .ofInt 23069566767000004
    (Limits.frequencyErrors hertz .sine (.integer 25000000) 1 = .ok [] ∧
      Scaling.encodeFrequency hertz = .ok 0 ∧ Scaling.decodeFrequency 0 = .ok .zero ∧
      Limits.frequencyErrors (.real .zero) .sine (.integer 25000000) 1 =
        .ok ["frequency < 1e-06 Hz"] ∧
      (program.runOn bench).1 = .result .done ∧
      linesOn port (portCalls (program.stepsOn bench)) =
        [asciiBytes ":r1w\n".toList, asciiBytes ":s1f0\n".toList]) ∧
    Limits.frequencyErrors (.real (.ofInt 23069566767000000)) .arbitrary0 maximum 1 = .ok [] ∧
      Scaling.encodeFrequency (.real (.ofInt 23069566767000000)) = .ok 2306956676700000256 ∧
      Scaling.decodeFrequency 2306956676700000256 = .ok beyond ∧
      Limits.frequencyErrors (.real beyond) .arbitrary0 maximum 1 ≠ .ok [] := by
  decide +kernel

end Operation

end SignalGenerator
