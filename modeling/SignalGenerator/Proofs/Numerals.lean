import Mathlib.Algebra.Group.Nat.Defs
import SignalGenerator.Instrument.Identity

/-!
Numerals on the line. A natural number is written as its plain decimal numeral, an integer that is
written is read back, and the model of a generator names its highest frequency with two digits.
-/

namespace SignalGenerator

/-- The plain decimal numeral of a number: digits and nothing else, and no zero in front of others. -/
structure PlainNumeral (numeral : String) (n : Nat) : Prop where
  nonempty : numeral.toList ≠ []
  digits : ∀ c ∈ numeral.toList, c.isDigit = true
  leading : numeral.toList.head? = some '0' → numeral = "0"
  value : Nat.ofDigitChars 10 numeral.toList 0 = n

theorem toList_toString (n : Nat) : (toString n).toList = Nat.toDigits 10 n := Nat.toList_repr

theorem head_toDigits {n : Nat} (positive : 0 < n) : (Nat.toDigits 10 n).head? ≠ some '0' := by
  induction n using Nat.strongRecOn with
  | ind n ih =>
    by_cases small : n < 10
    · have digit : ∀ m < 10, 0 < m → Nat.digitChar m ≠ '0' := by decide
      rw [Nat.toDigits_of_lt_base small, List.head?_cons]
      intro same
      exact digit n small positive (Option.some.inj same)
    · have earlier := ih (n / 10) (by omega) (by omega)
      obtain ⟨c, rest, digits⟩ := List.exists_cons_of_ne_nil (Nat.toDigits_ne_nil (b := 10) (n := n / 10))
      rw [Nat.toDigits_of_base_le (by decide) (by omega)]
      rw [digits] at earlier ⊢
      exact earlier

theorem plainNumeral_toString (n : Nat) : PlainNumeral (toString n) n := by
  constructor
  · rw [toList_toString]
    exact Nat.toDigits_ne_nil
  · intro c member
    rw [toList_toString] at member
    exact Nat.isDigit_of_mem_toDigits (by decide) (by decide) member
  · intro leading
    rw [toList_toString] at leading
    by_cases zero : n = 0
    · rw [zero]
      rfl
    · exact absurd leading (head_toDigits (Nat.pos_of_ne_zero zero))
  · rw [toList_toString]
    exact Nat.ofDigitChars_ten_toDigits

theorem length_toString_le {n width : Nat} (positive : 0 < width) (below : n < 10 ^ width) :
    (toString n).toList.length ≤ width := by
  rw [toList_toString]
  exact (Nat.length_toDigits_le_iff (by decide) positive).mpr below

theorem toNat_of_isDigit {c : Char} (digit : c.isDigit = true) : 48 ≤ c.toNat ∧ c.toNat ≤ 57 := by
  simp only [Char.isDigit, Bool.and_eq_true, decide_eq_true_eq, UInt32.le_iff_toNat_le] at digit
  exact digit

theorem ofDigitChars_lt {digits : List Char} (all : ∀ c ∈ digits, c.isDigit = true) (initial : Nat) :
    Nat.ofDigitChars 10 digits initial < (initial + 1) * 10 ^ digits.length := by
  induction digits generalizing initial with
  | nil => simp [Nat.ofDigitChars_nil]
  | cons c rest ih =>
    have digit := all c List.mem_cons_self
    have value : c.toNat - '0'.toNat ≤ 9 := by
      have range := toNat_of_isDigit digit
      have zero : '0'.toNat = 48 := rfl
      omega
    have step := ih (fun d member => all d (List.mem_cons_of_mem c member)) (10 * initial + (c.toNat - '0'.toNat))
    rw [Nat.ofDigitChars_cons, List.length_cons, Nat.pow_succ']
    calc _ < (10 * initial + (c.toNat - '0'.toNat) + 1) * 10 ^ rest.length := step
      _ ≤ (10 * (initial + 1)) * 10 ^ rest.length := Nat.mul_le_mul_right _ (by omega)
      _ = (initial + 1) * (10 * 10 ^ rest.length) := by
        rw [Nat.mul_comm 10, Nat.mul_assoc]

/-- An integer has the numeral of a natural number, with a minus sign in front when it is negative. -/
theorem toList_toString_neg (n : Nat) :
    (toString (Int.negSucc n)).toList = '-' :: (toString (n + 1)).toList := String.toList_append

namespace Reply

theorem natural?_toString (n : Nat) : natural? (toString n).toList = some n := by
  have plain := plainNumeral_toString n
  have nonempty : (toString n).toList.isEmpty = false := by
    simpa only [List.isEmpty_eq_false_iff] using plain.nonempty
  have digits : (toString n).toList.all Char.isDigit = true := List.all_eq_true.mpr plain.digits
  rw [natural?, nonempty, digits, plain.value]
  rfl

/-- An integer is read back from its numeral. -/
theorem integer?_toString (n : Int) : integer? (toString n) = some n := by
  cases n with
  | ofNat n =>
    have plain := plainNumeral_toString n
    obtain ⟨first, rest, characters⟩ := List.exists_cons_of_ne_nil plain.nonempty
    have digit : first ≠ '-' := by
      rintro rfl
      exact absurd (plain.digits '-' (by rw [characters]; exact List.mem_cons_self)) (by decide)
    have read := natural?_toString n
    show integer? (toString n) = some (n : Int)
    unfold integer?
    rw [characters] at read ⊢
    split
    · rename_i same
      exact absurd (List.cons.inj same).1 digit
    · rw [read]
      rfl
  | negSucc n =>
    unfold integer?
    rw [toList_toString_neg]
    show (natural? (toString (n + 1)).toList).map _ = _
    rw [natural?_toString]
    rfl

theorem natural?_lt {digits : List Char} {n width : Nat} (read : natural? digits = some n)
    (short : digits.length ≤ width) : n < 10 ^ width := by
  unfold natural? at read
  split at read
  · rename_i plain
    have below := ofDigitChars_lt (List.all_eq_true.mp (Bool.and_eq_true_iff.mp plain).2) 0
    rw [Nat.zero_add, Nat.one_mul, Option.some.inj read] at below
    exact Nat.lt_of_lt_of_le below (Nat.pow_le_pow_right (by decide) short)
  · cases read

/-- An integer has no more digits than its numeral has characters. -/
theorem integer?_natAbs_lt {text : String} {n : Int} {width : Nat} (read : integer? text = some n)
    (short : text.toList.length ≤ width) : n.natAbs < 10 ^ width := by
  unfold integer? at read
  split at read
  · rename_i rest characters
    obtain ⟨m, given, rfl⟩ := Option.map_eq_some_iff.mp read
    rw [characters, List.length_cons] at short
    rw [Int.natAbs_neg, Int.natAbs_natCast]
    exact natural?_lt given (by omega)
  · obtain ⟨m, given, rfl⟩ := Option.map_eq_some_iff.mp read
    rw [Int.natAbs_natCast]
    exact natural?_lt given short

end Reply

namespace Identity

/-- The ASCII digits are the only digits in ASCII. -/
theorem digit_of_ascii {c : Char} (ascii : c.toNat < 128) (digit : isAnyDigit c = true) :
    c ∈ "0123456789".toList := by
  have all : ∀ n < 128, isAnyDigit (Char.ofNat n) = true → Char.ofNat n ∈ "0123456789".toList := by
    decide +kernel
  rw [← Char.ofNat_toNat c] at digit ⊢
  exact all c.toNat ascii digit

/-- Two digits are a number below a hundred. -/
theorem integer?_two_digits {a b : Char} (first : a ∈ "0123456789".toList)
    (second : b ∈ "0123456789".toList) :
    ∃ n ≤ 99, Numeral.integer? (String.ofList [a, b]) = some (n : Nat) := by
  have all : ("0123456789".toList.all fun a => "0123456789".toList.all fun b =>
      decide (∃ n ∈ List.range 100, Numeral.integer? (String.ofList [a, b]) = some (n : Nat))) =
        true := by
    decide +kernel
  obtain ⟨n, member, read⟩ :=
    of_decide_eq_true (List.all_eq_true.mp (List.all_eq_true.mp all a first) b second)
  exact ⟨n, Nat.le_of_lt_succ (List.mem_range.mp member), read⟩

theorem exists_take_drop {characters : List Char} (long : shortestCode ≤ characters.length) :
    ∃ a b, (characters.drop 2).take 2 = [a, b] ∧ a ∈ characters ∧ b ∈ characters := by
  unfold shortestCode at long
  rcases characters with _ | ⟨_, _ | ⟨_, _ | ⟨a, _ | ⟨b, rest⟩⟩⟩⟩
  case cons.cons.cons.cons => exact ⟨a, b, rfl, by simp, by simp⟩
  all_goals simp at long

/-- The highest frequency of a model is a whole number of megahertz below a hundred. -/
theorem maxFrequency_of_reply {reply : String} {identity : Identity}
    (ascii : ∀ c ∈ reply.toList, c.toNat < 128) (given : ofReply reply = .ok identity) :
    ∃ megahertz ≤ 99, identity.maxFrequency = .integer ((megahertz : Nat) * 1000000) := by
  unfold ofReply at given
  dsimp only at given
  split at given
  · cases given
  rename_i long
  split at given
  · cases given
  split at given
  · cases given
  rename_i digits
  split at given
  · cases given
  rename_i count read
  obtain ⟨a, b, code, inA, inB⟩ := exists_take_drop (Nat.not_lt.mp long)
  have narrow : ∀ c ∈ (Reply.value reply).toList, c.toNat < 128 := by
    intro c member
    rw [Reply.value, String.toList_ofList] at member
    exact ascii c (List.mem_of_mem_drop member)
  simp only [code, List.all_cons, List.all_nil, Bool.and_true, Bool.not_eq_true', Bool.not_eq_false,
    Bool.and_eq_true] at digits
  obtain ⟨n, le, number⟩ := integer?_two_digits (digit_of_ascii (narrow a inA) digits.1)
    (digit_of_ascii (narrow b inB) digits.2)
  rw [code, number] at read
  cases Option.some.inj read
  exact ⟨n, le, (congrArg Identity.maxFrequency (Except.ok.inj given)).symm⟩

end Identity

end SignalGenerator
