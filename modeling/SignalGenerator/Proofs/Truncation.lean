import SignalGenerator.Proofs.ReplyGrammar

/-!
Replies that are cut off. When the time is over in the middle of a line, what has come of it is given as if it
were the line. Nothing tells the two apart once the line ends are gone, so that the digits that have come are
taken for the number.
-/

namespace SignalGenerator

/-- The first digits of a number are the number without its last digits. -/
theorem ofDigitChars_take {digits : List Char} (all : ∀ c ∈ digits, c.isDigit = true) (count : Nat) :
    Nat.ofDigitChars 10 (digits.take count) 0 =
      Nat.ofDigitChars 10 digits 0 / 10 ^ (digits.length - count) := by
  have whole : Nat.ofDigitChars 10 digits 0 =
      10 ^ (digits.length - count) * Nat.ofDigitChars 10 (digits.take count) 0 +
        Nat.ofDigitChars 10 (digits.drop count) 0 := by
    conv_lhs => rw [← List.take_append_drop count digits, Nat.ofDigitChars_append,
      Nat.ofDigitChars_eq_ofDigitChars_zero, List.length_drop]
  have rest := @ofDigitChars_lt (digits.drop count) (fun c member => all c (List.mem_of_mem_drop member)) 0
  rw [List.length_drop, Nat.zero_add, Nat.one_mul] at rest
  rw [whole, Nat.mul_add_div (Nat.pow_pos (by decide)), Nat.div_eq_of_lt rest, Nat.add_zero]

theorem length_asciiBytes (text : List Char) : (asciiBytes text).length = text.length := List.length_map _

theorem asciiBytes_append (front text : List Char) :
    asciiBytes (front ++ text) = asciiBytes front ++ asciiBytes text := List.map_append

theorem take_asciiBytes (text : List Char) (count : Nat) :
    (asciiBytes text).take count = asciiBytes (text.take count) := List.map_take.symm

namespace Reply

theorem isLineEnd_inline {c : Char} (inline : Inline c) : isLineEnd (UInt8.ofNat c.toNat) = false := by
  rw [← isTerminator_ofNat, toNat_byte inline.1, Char.ofNat_toNat, inline.2]

/-- A text without line ends is not stripped. -/
theorem stripped_inline {front : List UInt8} {text : List Char} (inside : ∀ c ∈ text, Inline c)
    (nonempty : text ≠ []) : stripped (front ++ asciiBytes text) = front ++ asciiBytes text := by
  have some : asciiBytes text ≠ [] := fun none => nonempty (List.map_eq_nil_iff.mp none)
  refine List.rdropWhile_eq_self_iff.mpr fun _ => ?_
  obtain ⟨c, member, last⟩ := List.mem_map.mp (List.getLast_mem some)
  rw [List.getLast_append_of_ne_nil _ some, ← last, isLineEnd_inline (inside c member)]
  exact Bool.false_ne_true

/-- The characters in front of the digits of an integer. -/
def signLength (n : Int) : Nat := if n < 0 then 1 else 0

/-- The line that answers a command with this integer. -/
def answerLine (command : String) (n : Int) : List UInt8 :=
  asciiBytes (command.toList ++ (toString n).toList) ++ [10]

theorem natural?_take {n count : Nat} (some : 0 < count) :
    natural? ((toString n).toList.take count) = .some (n / 10 ^ ((toString n).toList.length - count)) := by
  have plain := plainNumeral_toString n
  have nonempty : ((toString n).toList.take count).isEmpty = false := by
    rw [List.isEmpty_eq_false_iff, ne_eq, List.take_eq_nil_iff, not_or]
    exact ⟨some.ne', plain.nonempty⟩
  have digits : ((toString n).toList.take count).all Char.isDigit = true :=
    List.all_eq_true.mpr fun c member => plain.digits c (List.mem_of_mem_take member)
  rw [natural?, nonempty, digits, ofDigitChars_take plain.digits, plain.value]
  rfl

theorem tdiv_ten_pow (n count : Nat) : (n : Int).tdiv (10 ^ count) = (n / 10 ^ count : Nat) := by
  rw [Int.ofNat_tdiv, Int.natCast_pow]
  rfl

/-- Of a numeral that is cut off nothing is read before the first digit, and from then on the number without
the digits that are missing. -/
theorem integer?_take (n : Int) (count : Nat) :
    integer? (String.ofList ((toString n).toList.take count)) =
      if signLength n < count then some (n.tdiv (10 ^ ((toString n).toList.length - count))) else none := by
  cases n with
  | ofNat n =>
    have digits : (toString (Int.ofNat n)).toList = (toString n).toList := rfl
    have unsigned : signLength (Int.ofNat n) = 0 := if_neg (Int.not_lt.mpr (Int.natCast_nonneg n))
    have plain : ((toString n).toList.take count).head? ≠ some '-' := by
      intro minus
      have digit := (plainNumeral_toString n).digits '-' (List.mem_of_mem_take (List.mem_of_head? minus))
      cases digit
    rw [digits, unsigned, integer?_plain plain]
    by_cases first : 0 < count
    · rw [if_pos first, natural?_take first, Option.map_some, Int.ofNat_eq_natCast, tdiv_ten_pow]
    · rw [if_neg first, Nat.eq_zero_of_not_pos first]
      rfl
  | negSucc n =>
    have signed : signLength (Int.negSucc n) = 1 := if_pos (Int.negSucc_lt_zero n)
    have opposite : Int.negSucc n = -((n + 1 : Nat) : Int) := rfl
    rw [signed, toList_toString_neg]
    cases count with
    | zero => rfl
    | succ count =>
      rw [List.take_succ_cons, integer?_minus, List.length_cons, Nat.add_sub_add_right]
      by_cases first : 0 < count
      · rw [if_pos (by omega), natural?_take first, Option.map_some, opposite, Int.neg_tdiv, tdiv_ten_pow]
      · rw [if_neg (by omega), Nat.eq_zero_of_not_pos first]
        rfl

section
variable {command : String} {n : Int} {cut : List UInt8}
  (four : command.toList.length = 4) (part : cut <+: answerLine command n) (torn : cut ≠ answerLine command n)

include part torn

theorem prefix_content : cut <+: asciiBytes command.toList ++ asciiBytes (toString n).toList := by
  rw [← asciiBytes_append]
  exact (List.prefix_concat_iff.mp part).resolve_left torn

include four

theorem length_cut_le : cut.length ≤ 4 + (toString n).toList.length := by
  have size := (prefix_content part torn).length_le
  rwa [List.length_append, length_asciiBytes, length_asciiBytes, four] at size

/-- With the whole tag, what has come is cut off in the numeral. -/
theorem cut_eq (long : 4 ≤ cut.length) :
    cut = asciiBytes command.toList ++ asciiBytes ((toString n).toList.take (cut.length - 4)) := by
  have tag := (length_asciiBytes command.toList).trans four
  have same := List.prefix_iff_eq_take.mp (prefix_content part torn)
  rwa [List.take_append, List.take_of_length_le (tag.trans_le long), take_asciiBytes, tag] at same

/-- What has come of a line is taken for the number without the digits that are missing, if a digit has come. -/
theorem valued_cut_iff (room : 4 + (toString n).toList.length ≤ 32) {m : Int} :
    Valued command cut m ↔ 4 + signLength n < cut.length ∧
      m = n.tdiv (10 ^ (4 + (toString n).toList.length - cut.length)) := by
  have whole : command.toList.take 4 = command.toList := List.take_of_length_le four.le
  have size := length_cut_le four part torn
  rw [valued_iff, whole]
  by_cases long : 4 < cut.length
  · have same := cut_eq four part torn long.le
    have read := integer?_take n (cut.length - 4)
    have length : ((toString n).toList.take (cut.length - 4)).length = cut.length - 4 := by
      rw [List.length_take]
      omega
    have missing : (toString n).toList.length - (cut.length - 4) =
        4 + (toString n).toList.length - cut.length := by omega
    have inside : ∀ c ∈ (toString n).toList.take (cut.length - 4), Inline c :=
      fun c member => inline_toString c (List.mem_of_mem_take member)
    rw [missing] at read
    generalize (toString n).toList.take (cut.length - 4) = text at same read length inside
    have nonempty : text ≠ [] := List.ne_nil_of_length_pos (by omega)
    have ascii : ∀ c ∈ text, c.toNat < 128 := fun c member => (inside c member).1
    have bytes : asciiText (asciiBytes text) = text := map_bytes ascii
    have denotes : integer? (String.ofList (asciiText (asciiBytes text))) = some m ↔
        Denotes (asciiBytes text) m := integer?_iff (byte_lt ascii)
    have stays := @stripped_inline (asciiBytes command.toList) _ inside nonempty
    rw [← same] at stays
    rw [bytes, read] at denotes
    constructor
    · rintro ⟨numeral, content, given, _⟩
      rw [stays, same] at content
      obtain rfl := List.append_cancel_left content
      have found := denotes.mpr given
      split at found
      · exact ⟨by omega, (Option.some.inj found).symm⟩
      · cases found
    · rintro ⟨digit, rfl⟩
      refine ⟨_, stays.trans same, denotes.mp (if_pos (by omega)), ?_⟩
      rw [length_asciiBytes]
      omega
  · constructor
    · rintro ⟨numeral, same, denotes, _⟩
      have front := (List.rdropWhile_prefix (l := cut) isLineEnd).length_le
      have size := congrArg List.length same
      have some := denotes.length_pos
      rw [List.length_append, length_asciiBytes, four] at size
      unfold stripped at size
      omega
    · omega

end

/-- With a digit left and another one missing, what is left is a smaller number. -/
theorem tdiv_ne {n : Int} {missing : Nat} (some : 0 < missing)
    (digits : signLength n + 1 + missing ≤ (toString n).toList.length) : n.tdiv (10 ^ missing) ≠ n := by
  intro same
  have size : n.natAbs / 10 ^ missing = n.natAbs := by
    conv_rhs => rw [← same, Int.natAbs_tdiv, Int.natAbs_pow]
    rfl
  by_cases zero : n = 0
  · subst zero
    have one : (toString (0 : Int)).toList.length = 1 := by decide
    omega
  · have smaller := Nat.div_lt_self (Int.natAbs_pos.mpr zero) (Nat.one_lt_pow some.ne' (by decide : 1 < 10))
    omega

end Reply

namespace Exchange

variable {σ : Type} {answer : σ → (request : Request) → request.Answer × σ} {port : Port}
  {command : String}

/-- What a reading gives is what is made of the line. -/
theorem queryInteger_runIn {line : List UInt8} (steady : Steady answer port line)
    (plain : ∀ c ∈ command.toList, c.toNat < 128) (state : σ) :
    ((queryInteger port command).runIn answer state).1 = .ofExcept (valueOf command line) := by
  rw [queryInteger_eq]
  exact judged_runIn steady plain _ state

/-- A reply that is cut off before its first digit is refused. From then on it is taken, for the number without
the digits that are missing, and that is another number as long as one is missing. -/
theorem truncated_reading {n : Int} {cut : List UInt8} (steady : Steady answer port cut)
    (plain : ∀ c ∈ command.toList, c.toNat < 128) (four : command.toList.length = 4)
    (room : 4 + (toString n).toList.length ≤ 32) (part : cut <+: Reply.answerLine command n)
    (torn : cut ≠ Reply.answerLine command n) (state : σ) :
    let reading := ((queryInteger port command).runIn answer state).1
    let front := 4 + Reply.signLength n
    let missing := 4 + (toString n).toList.length - cut.length
    (cut.length ≤ front → ∃ fault, reading = .fault fault ∧ Reply.Refused cut .integer fault.kind) ∧
      (front < cut.length → reading = .result (n.tdiv (10 ^ missing))) ∧
      ((∃ m, m ≠ n ∧ reading = .result m) ↔ front < cut.length ∧ 0 < missing) := by
  have valued := fun m => (valueOf_iff plain four.ge (n := m)).trans
    (Reply.valued_cut_iff four part torn room)
  have size := Reply.length_cut_le four part torn
  intro reading front missing
  have judged : reading = .ofExcept (valueOf command cut) := queryInteger_runIn steady plain state
  have taken : front < cut.length → reading = .result (n.tdiv (10 ^ missing)) := by
    intro digit
    rw [judged, Outcome.ofExcept_eq_result]
    exact (valued _).mpr ⟨digit, rfl⟩
  have found : ∀ m, reading = .result m → front < cut.length ∧ m = n.tdiv (10 ^ missing) := by
    intro m result
    rw [judged, Outcome.ofExcept_eq_result] at result
    exact (valued m).mp result
  refine ⟨?_, taken, ?_⟩
  · intro early
    cases given : valueOf command cut with
    | ok m =>
      rw [given] at judged
      have late := (found m judged).1
      omega
    | error fault =>
      rw [given] at judged
      exact ⟨fault, judged, valueOf_refused given⟩
  · constructor
    · rintro ⟨m, other, result⟩
      obtain ⟨digit, rfl⟩ := found m result
      refine ⟨digit, Nat.pos_of_ne_zero fun none => other ?_⟩
      rw [none, pow_zero, Int.tdiv_one]
    · rintro ⟨digit, some⟩
      refine ⟨_, Reply.tdiv_ne some ?_, taken digit⟩
      omega

/-- Of a negative reply the sign alone is refused, and the first digit is taken. -/
theorem truncated_reading_negative :
    let sign := asciiBytes ":r1o-".toList
    let digit := asciiBytes ":r1o-1".toList
    (∃ fault, ((queryInteger ⟨0, "bench"⟩ ":r1o").runIn (repeating sign) (Bench.empty ⟨0⟩)).1 = .fault fault ∧
        Reply.Refused sign .integer fault.kind) ∧
      ((queryInteger ⟨0, "bench"⟩ ":r1o").runIn (repeating digit) (Bench.empty ⟨0⟩)).1 = .result (-1) := by
  intro sign digit
  have steady : ∀ line, Steady (repeating line) ⟨0, "bench"⟩ line :=
    fun line => ⟨fun _ _ _ => rfl, fun _ _ => rfl⟩
  have plain : ∀ c ∈ ":r1o".toList, c.toNat < 128 := ascii_of_all (by decide +kernel)
  have four : ":r1o".toList.length = 4 := by decide +kernel
  have room : 4 + (toString (-12 : Int)).toList.length ≤ 32 := by decide +kernel
  obtain ⟨refused, _, _⟩ := truncated_reading (steady sign) plain four room (by decide +kernel)
    (by decide +kernel) (Bench.empty ⟨0⟩)
  obtain ⟨_, taken, _⟩ := truncated_reading (steady digit) plain four room (by decide +kernel)
    (by decide +kernel) (Bench.empty ⟨0⟩)
  exact ⟨refused (by decide +kernel), (taken (by decide +kernel)).trans (by decide +kernel)⟩

/-- The reply to a reading of 2500000 is cut off after two digits, and 25 is read. -/
theorem truncated_reply_taken :
    ∃ cut : List UInt8, cut <+: Reply.answerLine ":r1f" 2500000 ∧ cut ≠ Reply.answerLine ":r1f" 2500000 ∧
      Steady (repeating cut) ⟨0, "bench"⟩ cut ∧
      ((queryInteger ⟨0, "bench"⟩ ":r1f").runIn (repeating cut) (Bench.empty ⟨0⟩)).1 = .result 25 := by
  have steady : Steady (repeating (asciiBytes ":r1f25".toList)) ⟨0, "bench"⟩ (asciiBytes ":r1f25".toList) :=
    ⟨fun _ _ _ => rfl, fun _ _ => rfl⟩
  refine ⟨asciiBytes ":r1f25".toList, by decide +kernel, by decide +kernel, steady, ?_⟩
  rw [queryInteger_runIn steady (ascii_of_all (by decide +kernel))]
  decide +kernel

end Exchange

end SignalGenerator
