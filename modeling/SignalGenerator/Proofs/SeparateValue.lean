import Mathlib.Data.List.TakeWhile
import Mathlib.Tactic.FinCases
import SignalGenerator.Proofs.LastValue
import SignalGenerator.Proofs.ReadBack

/-!
Numbers as arguments of their own. A number that is attached to its parameter is always read as the number.
An argument of its own is looked at before it is read: one that begins with a dash is taken for the name of
a parameter unless it is a dash with digits and a point, so a negative number with an exponent is refused.
-/

namespace SignalGenerator

/-- The parameters with a real value that is a setting of the channel. -/
def Parameter.reals : List Parameter := [.frequency, .amplitude, .offset, .phase, .dutyCycle]

/-- What is asked for by a value of one of them alone. -/
def Parameter.asking (x : Binary64) : Parameter → Arguments
  | .frequency => { Arguments.default with frequency := some (.value x) }
  | .amplitude => { Arguments.default with amplitude := some (.value x) }
  | .offset => { Arguments.default with offset := some (.value x) }
  | .phase => { Arguments.default with phase := some (.value x) }
  | .dutyCycle => { Arguments.default with dutyCycle := some (.value x) }
  | _ => Arguments.default

namespace Number

variable {a b : Number} {x y : Nat} (atA : a.place = .units x) (atB : b.place = .units y)

include atA atB

theorem isAtMost_units : a.isAtMost b = true ↔ x ≤ y :=
  (isAtMost_iff atA atB).trans Int.ofNat_le

theorem isLess_units : a.isLess b = true ↔ x < y := by
  rw [isLess, atA, atB, Place.isLess, decide_eq_true_eq, Int.ofNat_lt]

end Number

namespace Binary64

/-- Zero, or a magnitude from one ten-thousandth up and below ten to the sixteenth. -/
def Midrange (x : Binary64) : Prop :=
  Number.isSame x 0 = true ∨
    Number.isAtMost (Binary64.ofDecimal false 1 (-4)) x.abs = true ∧
      Number.isLess x.abs (Number.integer (10 ^ 16)) = true

instance (x : Binary64) : Decidable x.Midrange := by
  unfold Midrange
  infer_instance

section
variable {units : Nat} (representable : Representable units)

/-- The two bounds are written with the exponents -4 and 16. -/
theorem leading_bounds :
    leading (Decimal.units ⟨1, -4⟩) = -4 ∧ leading (Decimal.units ⟨1, 16⟩) = 16 ∧
      Decimal.units ⟨1, 16⟩ = 10 ^ 16 * unitsPerOne ∧ Representable (Decimal.units ⟨1, -4⟩) := by
  decide +kernel

include representable in
/-- Text without an exponent is for magnitudes between the two bounds. What is not below a bound is not
rounded to below it, and the bound itself is known. -/
theorem leading_iff (nonzero : units ≠ 0) :
    (-4 ≤ leading units ↔ Decimal.units ⟨1, -4⟩ ≤ units) ∧
      (leading units < 16 ↔ units < Decimal.units ⟨1, 16⟩) := by
  have denotes := denotes_significant representable.grid nonzero
  have read := denotes.units
  have length := List.length_pos_iff.mpr denotes.nonempty
  have short : Numeral.ofDigits (significant units) < 10 ^ (significant units).length := by
    have below := ofDigitChars_lt denotes.digital 0
    rwa [Nat.zero_add, Nat.one_mul] at below
  have atLeast {power : Int} (below : power < leading units + 1) : Decimal.units ⟨1, power⟩ ≤ units :=
    (Decimal.power_le_units denotes.long length below).trans_eq read
  have atMost {power : Int} (above : leading units + 1 ≤ power) : units ≤ Decimal.units ⟨1, power⟩ :=
    read.symm.le.trans (Decimal.units_le_power short above)
  obtain ⟨least, beyond, _, _⟩ := leading_bounds
  constructor
  · refine ⟨fun large => atLeast (by omega), fun large => ?_⟩
    by_contra small
    have same := Nat.le_antisymm large (atMost (by omega))
    rw [same] at least
    omega
  · refine ⟨fun small => ?_, fun small => ?_⟩
    · refine Nat.lt_of_le_of_ne (atMost (by omega)) fun same => ?_
      rw [← same] at beyond
      omega
    · by_contra large
      exact absurd small (Nat.not_lt.mpr (atLeast (by omega)))

/-- The lower bound is a number, and so is the upper one. -/
theorem bounds_place : (Number.real (ofDecimal false 1 (-4))).place = .units (Decimal.units ⟨1, -4⟩) ∧
    (Number.integer (10 ^ 16)).place = .units (Decimal.units ⟨1, 16⟩) := by
  obtain ⟨_, _, ten, low⟩ := leading_bounds
  constructor
  · rw [ofDecimal_eq, ofUnits_eq low]
    rfl
  · rw [ten]
    exact congrArg Place.units (by push_cast; rfl)

/-- Such numbers are the ones whose text has no exponent. -/
theorem midrange_iff (negative : Bool) : (finite negative units representable).Midrange ↔
    units = 0 ∨ (-4 ≤ leading units ∧ leading units < 16) := by
  obtain ⟨least, beyond⟩ := bounds_place
  have zero : (Number.real (finite negative units representable)).isSame 0 = true ↔ units = 0 := by
    rw [Scaling.isSame_zero, decide_eq_true_eq, Number.place_finite, Place.units.injEq]
    cases negative <;> simp [signed]
  have magnitude : (Number.real (finite negative units representable).abs).place = .units units := rfl
  unfold Midrange
  rw [zero, Number.isAtMost_units least magnitude, Number.isLess_units magnitude beyond]
  by_cases none : units = 0
  · simp [none]
  · obtain ⟨lower, upper⟩ := leading_iff representable none
    rw [lower, upper]

end

end Binary64

namespace Token

open Numeral (Written Plain pointed exponentText)

theorem isDecimal_of_isDigit {c : Char} (digit : c.isDigit = true) : isDecimal c = true := by
  have all : ∀ n < 128, (Char.ofNat n).isDigit = true → isDecimal (Char.ofNat n) = true := by
    decide
  have ascii := all c.toNat (by have := toNat_of_isDigit digit; omega)
  rw [Char.ofNat_toNat] at ascii
  exact ascii digit

/-- A digit is no letter of a parameter, and it is none of the signs that matter in an argument. -/
theorem not_sign_of_isDigit {c : Char} (digit : c.isDigit = true) :
    Parameter.ofLetter? c = none ∧ c ≠ '-' := by
  constructor
  · refine List.find?_eq_none.mpr fun parameter _ spelled => ?_
    cases parameter <;> cases of_decide_eq_true spelled <;> cases digit
  · rintro rfl
    cases digit

theorem not_mem_of_written {text : List Char} (written : ∀ c ∈ text, Written c) :
    '=' ∉ text ∧ ' ' ∉ text ∧ '\n' ∉ text := by
  have none {c : Char} (other : ¬ Written c) : c ∉ text := fun member => other (written c member)
  refine ⟨none ?_, none ?_, none ?_⟩ <;> unfold Written <;> decide

section
variable {whole fraction : List Char} {first : Char} {later : List Char} {exponent : Int}

/-- Written characters are not cut off at the end. -/
theorem isNegativeNumber_eq {digits : List Char} (written : ∀ c ∈ digits, Written c) :
    isNegativeNumber ('-' :: digits) =
      match digits.dropWhile isDecimal with
      | [] => !digits.isEmpty
      | point :: rest => point = '.' && !rest.isEmpty && rest.all isDecimal := by
  have uncut : ('-' :: digits).getLast? ≠ some '\n' := by
    intro last
    rcases List.mem_cons.mp (List.mem_of_getLast? last) with dash | member
    · cases dash
    · exact (not_mem_of_written written).2.2 member
  unfold isNegativeNumber
  rw [if_neg uncut]
  rfl

/-- A dash with digits and a point is a negative number. -/
theorem isNegativeNumber_plain {x : Binary64} (plain : Plain false x whole fraction) :
    isNegativeNumber ('-' :: (whole ++ '.' :: fraction)) = true := by
  have decimal : ∀ c ∈ whole, isDecimal c = true := fun c member =>
    isDecimal_of_isDigit (plain.wholeDigits c member)
  have all : fraction.all isDecimal = true := List.all_eq_true.mpr fun c member =>
    isDecimal_of_isDigit (plain.fractionDigits c member)
  have point : ('.' :: fraction).dropWhile isDecimal = '.' :: fraction :=
    List.dropWhile_cons_of_neg (by decide)
  rw [isNegativeNumber_eq, List.dropWhile_append_of_pos decimal, point]
  · simp [plain.fractionNonempty, all]
  · exact List.forall_mem_append.mpr ⟨Numeral.written_of_isDigit plain.wholeDigits,
      List.forall_mem_cons.mpr ⟨.inr (by simp), Numeral.written_of_isDigit plain.fractionDigits⟩⟩

/-- With an exponent it is none. -/
theorem isNegativeNumber_scientific (digital : ∀ c ∈ first :: later, c.isDigit = true)
    (written : ∀ c ∈ first :: (pointed later ++ exponentText exponent), Written c) :
    isNegativeNumber ('-' :: first :: (pointed later ++ exponentText exponent)) = false := by
  obtain ⟨digit, others⟩ := List.forall_mem_cons.mp digital
  have letter : isDecimal 'e' = false := by decide
  have point : isDecimal '.' = false := by decide
  rw [isNegativeNumber_eq written, List.dropWhile_cons_of_pos (isDecimal_of_isDigit digit)]
  by_cases none : later = []
  · simp [none, pointed, exponentText, letter]
  · simp [none, pointed, exponentText, letter, point]

end

theorem splitEquals_of_not_mem {text : List Char} (free : '=' ∉ text) :
    splitEquals text = (text, none) := by
  have kept : ∀ c ∈ text, (c != '=') = true := fun c member =>
    bne_iff_ne.mpr fun same => free (same ▸ member)
  rw [splitEquals, List.dropWhile_eq_nil_iff.mpr kept]

section
variable {first : Char} {rest : List Char} (digit : first.isDigit = true)

include digit

/-- A dash before a digit is no spelling of a parameter. -/
theorem ofSpelling?_digit : Parameter.ofSpelling? ('-' :: first :: rest) = none := by
  obtain ⟨letterless, dashless⟩ := not_sign_of_isDigit digit
  unfold Parameter.ofSpelling?
  split
  · rename_i same
    cases same
    exact letterless
  · refine List.find?_eq_none.mpr fun parameter _ spelled => ?_
    obtain ⟨word, dashes⟩ := parameter.long_eq
    have same := dashes.symm.trans (of_decide_eq_true spelled)
    exact dashless (List.cons.inj (List.cons.inj same).2).1.symm

/-- Nor does it begin one. -/
theorem candidates_digit : candidates ('-' :: first :: rest) = [] := by
  obtain ⟨letterless, dashless⟩ := not_sign_of_isDigit digit
  unfold candidates
  split
  · rename_i same
    cases same
    exact absurd rfl dashless
  · rename_i same
    cases same
    rw [letterless]
    rfl
  · rfl

/-- So it is taken for a number, or else for a name that nobody knows. -/
theorem ofArgument_digit (written : ∀ c ∈ first :: rest, Written c) :
    ofArgument (String.ofList ('-' :: first :: rest)) =
      .ok (if isNegativeNumber ('-' :: first :: rest) then .operand (String.ofList ('-' :: first :: rest))
        else .unknown (String.ofList ('-' :: first :: rest))) := by
  obtain ⟨equals, blank, _⟩ := not_mem_of_written written
  have whole : splitEquals ('-' :: first :: rest) = ('-' :: first :: rest, none) :=
    splitEquals_of_not_mem (List.not_mem_cons_of_ne_of_not_mem (by decide) equals)
  have unbroken : ('-' :: first :: rest).contains ' ' = false := by
    rw [List.contains_eq_mem, decide_eq_false_iff_not]
    exact List.not_mem_cons_of_ne_of_not_mem (by decide) blank
  unfold ofArgument
  simp only [String.toList_ofList, ofSpelling?_digit digit, whole, ofAbbreviation, candidates_digit digit,
    unbroken, Bool.or_false]
  rw [if_neg (by simp), if_neg (by simp)]
  split_ifs <;> rfl

end

/-- With a dash in front, the text of a magnitude is a negative number as long as it has no exponent. -/
theorem isNegativeNumber_magnitudeText {units : Nat} (representable : Representable units) :
    isNegativeNumber ('-' :: Binary64.magnitudeText units) =
      decide (Binary64.finite true units representable).Midrange := by
  obtain ⟨written, _⟩ := Numeral.written_magnitudeText representable
  by_cases midrange : (Binary64.finite true units representable).Midrange
  · obtain ⟨whole, fraction, layout, plain⟩ :=
      Numeral.magnitudeText_plain representable false ((Binary64.midrange_iff representable true).mp midrange)
    rw [layout, isNegativeNumber_plain plain, decide_eq_true midrange]
  · obtain ⟨first, later, layout, digital, _⟩ := Numeral.magnitudeText_scientific representable false
      (mt (Binary64.midrange_iff representable true).mpr midrange)
    rw [layout, isNegativeNumber_scientific digital (layout ▸ written), decide_eq_false midrange]

theorem ofArgument_long (parameter : Parameter) :
    ofArgument parameter.long = .ok (.named parameter .long none) := by
  obtain ⟨word, dashes⟩ := parameter.long_eq
  unfold ofArgument
  simp only [parameter.ofSpelling?_long]
  simp [dashes, spelling]

/-- The name of a parameter and one more argument. -/
theorem ofArguments_pair {parameter : Parameter} {typed : String} {token : Token} (single : typed ≠ "--")
    (known : ofArgument typed = .ok token) :
    ofArguments [parameter.long, typed] = .ok [.named parameter .long none, token] := by
  have name : parameter.long ≠ "--" := by cases parameter <;> decide
  rw [ofArguments, ofArgument_long, ofArguments, known, ofArguments]
  · rfl
  · exact single
  · exact name

variable {x : Binary64} (finite : x.isFinite = true)

include finite

/-- The text of a number that is not negative begins with a digit, and that of a negative number with a dash
before a digit. -/
theorem text_begins : ∃ first rest, first.isDigit = true ∧ (∀ c ∈ first :: rest, Written c) ∧
    x.text.toList = (if x.isNegative then ['-'] else []) ++ first :: rest ∧
    isNegativeNumber ('-' :: first :: rest) = decide x.Midrange := by
  obtain ⟨negative, units, representable⟩ := x
  case infinite | nan => cases finite
  obtain ⟨written, first, rest, begins, digit⟩ := Numeral.written_magnitudeText representable
  refine ⟨first, rest, digit, begins ▸ written, ?_, ?_⟩
  · rw [Binary64.text, String.toList_ofList, begins]
    rfl
  · rw [← begins, isNegativeNumber_magnitudeText representable]
    exact decide_eq_decide.mpr
      ((Binary64.midrange_iff representable true).trans (Binary64.midrange_iff representable negative).symm)

/-- A finite number is an operand unless its text begins with a dash and has an exponent. -/
theorem ofArgument_text :
    ofArgument x.text =
      .ok (if x.isNegative = false ∨ x.Midrange then .operand x.text else .unknown x.text) := by
  obtain ⟨first, rest, digit, written, begins, plain⟩ := text_begins finite
  cases negative : x.isNegative with
  | false =>
    rw [negative] at begins
    rw [if_pos (.inl rfl), ofArgument]
    simp [begins, (not_sign_of_isDigit digit).2]
  | true =>
    rw [negative] at begins
    have text : x.text = String.ofList ('-' :: first :: rest) := String.toList_inj.mp (by simpa using begins)
    rw [text, ofArgument_digit digit written, plain]
    simp

/-- The text of a number is not the separator. -/
theorem text_ne : x.text ≠ "--" := by
  intro same
  obtain ⟨first, rest, digit, _, begins, _⟩ := text_begins finite
  rw [same] at begins
  cases negative : x.isNegative <;> rw [negative] at begins <;> cases begins <;> cases digit

end Token

namespace Arguments

section
variable {parameter : Parameter} {typed : String}

/-- The value that a parameter awaits may be an argument of its own, if it is an operand. -/
theorem parse_separate (takes : parameter.takesValue = true) (single : typed ≠ "--")
    (known : Token.ofArgument typed = .ok (.operand typed)) :
    parse [parameter.long, typed] = parse [parameter.long ++ "=" ++ typed] := by
  have attached := Token.ofArguments_assignments [.value parameter typed]
  have awaits : unfold parameter .long none = .ok ([], .awaits parameter) := by
    rw [unfold]
    exact takes
  have valued : unfold parameter .long (some typed.toList) = .ok ([], .value parameter typed) := by
    rw [unfold, String.ofList_toList]
    exact takes
  rw [parse, Token.ofArguments_pair single known, parse]
  refine .trans ?_ (congrArg (· >>= take default []) attached).symm
  change take default [] _ = take default [] _
  rw [take, awaits, List.map_cons, Assignment.token, take, valued]
  rfl

/-- A parameter awaits its value in vain if something follows that looks like a name. -/
theorem parse_awaiting (takes : parameter.takesValue = true) (single : typed ≠ "--")
    (known : Token.ofArgument typed = .ok (.unknown typed)) :
    parse [parameter.long, typed] = .error (problem parameter "expected one argument") := by
  have awaits : unfold parameter .long none = .ok ([], .awaits parameter) := by
    rw [unfold]
    exact takes
  rw [parse, Token.ofArguments_pair single known]
  change take default [] _ = _
  rw [take, awaits]

end

end Arguments

namespace Configuration

open Assignment

section
variable {parameter : Parameter} (real : parameter ∈ Parameter.reals) {x : Binary64}
  (finite : x.isFinite = true)

include real

theorem takesValue_of_real : parameter.takesValue = true ∧ parameter ≠ .pollInterval := by
  fin_cases real <;> decide

include finite

theorem accepted_real : (Assignment.value parameter x.text).Accepted ∧
    asked [.value parameter x.text] = parameter.asking x := by
  have read : Arguments.readReal x.text = .ok x := by
    obtain ⟨negative, units, representable⟩ := x
    case infinite | nan => cases finite
    rw [Arguments.readReal, Numeral.real?_text]
  constructor
  · refine ⟨Token.text_ne finite, ?_⟩
    fin_cases real <;> exact ⟨x, read⟩
  · fin_cases real <;>
      simp [asked, last, lastTyped, typedFor, read, Parameter.asking, Arguments.default, Except.toOption]

/-- A number that is attached to its parameter is read as the number. -/
theorem attached_value (start : Instant) : ofCommandLine [parameter.long ++ "=" ++ x.text] start =
    .ok ⟨parameter.asking x, start.fileStamp ++ "_counter.csv",
      start.fileStamp ++ "_channel_status.csv"⟩ := by
  obtain ⟨accepted, asks⟩ := accepted_real real finite
  have nowhere : lastTyped [.value parameter x.text] .pollInterval = none := by
    simp [lastTyped, typedFor, (takesValue_of_real real).2]
  rw [← asks]
  exact of_assignments start (List.forall_mem_singleton.mpr accepted) (by simp [nowhere])

/-- As an argument of its own, a number is taken like one that is attached to its parameter as long as it is
not negative, or else has a text without an exponent; otherwise the command line is refused. -/
theorem separate_value_taken_iff (start : Instant) :
    let attached := ofCommandLine [parameter.long ++ "=" ++ x.text] start
    let separate := ofCommandLine [parameter.long, x.text] start
    attached = .ok ⟨parameter.asking x, start.fileStamp ++ "_counter.csv",
      start.fileStamp ++ "_channel_status.csv"⟩ ∧
    (separate = attached ↔ x.isNegative = false ∨ x.Midrange) ∧
    (¬ (x.isNegative = false ∨ x.Midrange) →
      separate = .error (.exited 2 s!"argument {parameter.label}: expected one argument")) := by
  intro attached separate
  have asked : attached = _ := attached_value real finite start
  have takes := (takesValue_of_real real).1
  have single := Token.text_ne finite
  have known := Token.ofArgument_text finite
  by_cases taken : x.isNegative = false ∨ x.Midrange
  · rw [if_pos taken] at known
    have same : separate = attached := by
      simp only [separate, attached, ofCommandLine, Arguments.ofCommandLine,
        Arguments.parse_separate takes single known]
    exact ⟨asked, iff_of_true same taken, fun refused => absurd taken refused⟩
  · rw [if_neg taken] at known
    have message : Arguments.problem parameter "expected one argument" =
        ⟨2, s!"argument {parameter.label}: expected one argument"⟩ := by
      simp only [Arguments.problem, Exit.refusal, String.append_assoc]
      rfl
    have refused : separate = .error (.exited 2 s!"argument {parameter.label}: expected one argument") := by
      simp only [separate, ofCommandLine, Arguments.ofCommandLine,
        Arguments.parse_awaiting takes single known, message]
      rfl
    refine ⟨asked, iff_of_false ?_ taken, fun _ => refused⟩
    rw [refused, asked]
    rintro ⟨⟩

end

/-- A negative offset with a point and digits is a value of its own. -/
theorem separate_value_taken_iff_plain :
    let x := Binary64.ofDecimal true 15 (-1)
    let start : Instant := ⟨63850576089000000⟩
    .offset ∈ Parameter.reals ∧ x.isFinite = true ∧ x.text = "-1.5" ∧
      ofCommandLine ["--offset=-1.5"] start = .ok ⟨{ Arguments.default with offset := some (.value x) },
        "2024-05-06--07-08-09_counter.csv", "2024-05-06--07-08-09_channel_status.csv"⟩ ∧
      ofCommandLine ["--offset", "-1.5"] start = ofCommandLine ["--offset=-1.5"] start := by
  intro x start
  have real : Parameter.offset ∈ Parameter.reals := by decide
  have finite : x.isFinite = true := by decide +kernel
  have written : x.text = "-1.5" := by decide +kernel
  have midrange : x.Midrange := by decide +kernel
  obtain ⟨attached, separate, _⟩ := separate_value_taken_iff real finite start
  rw [written] at attached separate
  exact ⟨real, finite, written, attached.trans (by decide +kernel), separate.mpr (.inr midrange)⟩

/-- A negative offset with an exponent is refused as an argument of its own, though it is a value when it
is attached. -/
theorem exponent_refused :
    let x := Binary64.ofDecimal true 1 (-5)
    let start : Instant := ⟨63850576089000000⟩
    x.isFinite = true ∧ x.text = "-1e-05" ∧
      ofCommandLine ["--offset=-1e-05"] start = .ok ⟨{ Arguments.default with offset := some (.value x) },
        "2024-05-06--07-08-09_counter.csv", "2024-05-06--07-08-09_channel_status.csv"⟩ ∧
      ofCommandLine ["--offset", "-1e-05"] start =
        .error (.exited 2 "argument --offset: expected one argument") := by
  decide +kernel

end Configuration

end SignalGenerator
