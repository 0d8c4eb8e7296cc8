import SignalGenerator.Proofs.ReplyGrammar

/-!
Which lines name a generator. The reply to the question for the model is taken exactly when it repeats
the question and goes on with the digits of the family, two more digits and at least one further
character. The identity is read off those bytes, and every other line is refused as silence, as a line
outside the protocol, as a reply without a value, or as the reply of another generator.
-/

namespace SignalGenerator

/-- Different ASCII bytes have different characters. -/
theorem asciiText_prefix_iff {front bytes : List UInt8} (narrow : ∀ byte ∈ front, byte < 128)
    (ascii : ∀ byte ∈ bytes, byte < 128) : asciiText front <+: asciiText bytes ↔ front <+: bytes := by
  constructor
  · intro begins
    have found := begins.map fun c => UInt8.ofNat c.toNat
    rwa [← asciiBytes, ← asciiBytes, Reply.asciiBytes_asciiText narrow,
      Reply.asciiBytes_asciiText ascii] at found
  · exact fun begins => begins.map _

namespace Identity

/-- The bytes of the question for the model, which its answer repeats. -/
def question : List UInt8 := asciiBytes ":r0c".toList

/-- The bytes of the digits of the family. -/
def family : List UInt8 := asciiBytes "52".toList

/-- The byte of a decimal digit. -/
def IsDigit (byte : UInt8) : Prop := 48 ≤ byte ∧ byte ≤ 57

/-- The identity for the bytes after the digits of the family: the name has five of them at most, and
the first two are the highest frequency in megahertz. -/
def named (tens ones : UInt8) (more : List UInt8) : Identity where
  model := "MHS-" ++ String.ofList (asciiText (tens :: ones :: more.take 3))
  maxFrequency := .integer ((10 * (tens.toNat - 48) + (ones.toNat - 48) : Nat) * 1000000)

/-- A model code, and the identity that it stands for. -/
inductive Codes : List UInt8 → Identity → Prop
  | code {tens ones more} : IsDigit tens → IsDigit ones → more ≠ [] →
      Codes (family ++ tens :: ones :: more) (named tens ones more)

/-- A line that names a generator: without its line ends it is the question and a model code, in at most
32 ASCII characters. -/
inductive Announces (line : List UInt8) : Identity → Prop
  | reply {code identity} : (∀ byte ∈ line, byte < 128) → Reply.stripped line = question ++ code →
      (Reply.stripped line).length ≤ 32 → Codes code identity → Announces line identity

/-- Why a line names no generator. -/
inductive Unannounced (line : List UInt8) : Fault.Kind → Prop
  | silent : line = [] → Unannounced line .transport
  | wide : (∃ byte ∈ line, 128 ≤ byte) → Unannounced line .unexpectedReply
  | brief : line ≠ [] → (∀ byte ∈ line, byte < 128) → Reply.Brief line → Unannounced line .shortReply
  | long : (∀ byte ∈ line, byte < 128) → 32 < (Reply.stripped line).length →
      Unannounced line .unexpectedReply
  | unlike : (∀ byte ∈ line, byte < 128) → ¬ Reply.Brief line → ¬ question <+: Reply.stripped line →
      Unannounced line .unexpectedReply
  | foreign {code} : (∀ byte ∈ line, byte < 128) → Reply.stripped line = question ++ code →
      code ≠ [] → (Reply.stripped line).length ≤ 32 → (∀ identity, ¬ Codes code identity) →
      Unannounced line .unsupportedDevice

theorem ascii_question : ∀ byte ∈ question, byte < 128 := byte_lt (ascii_of_all (by decide))

theorem ascii_family : ∀ byte ∈ family, byte < 128 := byte_lt (ascii_of_all (by decide))

theorem isAnyDigit_ofNat {byte : UInt8} (ascii : byte < 128) :
    isAnyDigit (Char.ofNat byte.toNat) = true ↔ IsDigit byte := by
  have all : ∀ n < 128, isAnyDigit (Char.ofNat n) = true ↔ 48 ≤ n ∧ n ≤ 57 := by decide +kernel
  exact all byte.toNat ascii

/-- The value of two digits. -/
theorem integer?_digits {tens ones : UInt8} (first : IsDigit tens) (second : IsDigit ones) :
    Numeral.integer? (String.ofList (asciiText [tens, ones])) =
      some ((10 * (tens.toNat - 48) + (ones.toNat - 48) : Nat) : Int) := by
  have all : ∀ m < 10, ∀ n < 10, Numeral.integer?
      (String.ofList [Char.ofNat (48 + m), Char.ofNat (48 + n)]) = some ((10 * m + n : Nat) : Int) := by
    decide
  obtain ⟨low, high⟩ := first
  obtain ⟨below, above⟩ := second
  rw [UInt8.le_iff_toNat_le] at low high below above
  have nine : (57 : UInt8).toNat = 57 := rfl
  have zero : (48 : UInt8).toNat = 48 := rfl
  have read := all (tens.toNat - 48) (by omega) (ones.toNat - 48) (by omega)
  rwa [Nat.add_sub_cancel' (by omega), Nat.add_sub_cancel' (by omega)] at read

/-- Two digits name a whole number of megahertz below a hundred. -/
theorem named_maxFrequency {tens ones : UInt8} (first : IsDigit tens) (second : IsDigit ones)
    (more : List UInt8) :
    ∃ hertz : Int, (named tens ones more).maxFrequency = .integer hertz ∧ 0 ≤ hertz ∧
      hertz ≤ 99000000 := by
  refine ⟨_, rfl, by omega, ?_⟩
  have high := UInt8.le_iff_toNat_le.mp first.2
  have above := UInt8.le_iff_toNat_le.mp second.2
  have nine : (57 : UInt8).toNat = 57 := rfl
  omega

section
variable {code : List UInt8}

theorem value_question (code : List UInt8) :
    (Reply.value (String.ofList (asciiText (question ++ code)))).toList = asciiText code := by
  rw [Reply.value, String.toList_ofList, String.toList_ofList, asciiText, List.map_append]
  rfl

/-- What is judged of a code: its length, the digits of the family and the two digits after them. -/
theorem ofReply_code {tens ones : UInt8} {more : List UInt8} (first : IsDigit tens)
    (second : IsDigit ones) (further : more ≠ [])
    (ascii : ∀ byte ∈ family ++ tens :: ones :: more, byte < 128) :
    ofReply (String.ofList (asciiText (question ++ (family ++ tens :: ones :: more)))) =
      .ok (named tens ones more) := by
  have begins : familyDigits.isPrefixOf (asciiText (family ++ tens :: ones :: more)) = true :=
    List.isPrefixOf_iff_prefix.mpr
      ((asciiText_prefix_iff ascii_family ascii).mpr (List.prefix_append _ _))
  have long : ¬ (asciiText (family ++ tens :: ones :: more)).length < shortestCode := by
    have nonempty := List.length_pos_iff.mpr further
    have two : family.length = 2 := rfl
    rw [asciiText, List.length_map, List.length_append, List.length_cons, List.length_cons, shortestCode]
    omega
  have front : (asciiText (family ++ tens :: ones :: more)).drop 2 = asciiText (tens :: ones :: more) :=
    rfl
  have digits : (asciiText [tens, ones]).all isAnyDigit = true := by
    simp only [List.forall_mem_append, List.forall_mem_cons] at ascii
    simp only [asciiText, List.map_cons, List.map_nil, List.all_cons, List.all_nil, Bool.and_true,
      Bool.and_eq_true]
    exact ⟨(isAnyDigit_ofNat ascii.2.1).mpr first, (isAnyDigit_ofNat ascii.2.2.1).mpr second⟩
  have middle : (asciiText (tens :: ones :: more)).take 2 = asciiText [tens, ones] := rfl
  have name : (asciiText (tens :: ones :: more)).take 5 = asciiText (tens :: ones :: more.take 3) := by
    rw [asciiText, ← List.map_take]
    rfl
  unfold ofReply
  dsimp only
  rw [value_question, front, middle, name, if_neg long, begins, digits, integer?_digits first second]
  rfl

/-- Without a model code a reply is the one of another generator. -/
theorem ofReply_foreign (ascii : ∀ byte ∈ code, byte < 128) (none : ∀ identity, ¬ Codes code identity) :
    ∃ fault, ofReply (String.ofList (asciiText (question ++ code))) = .error fault ∧
      fault.kind = .unsupportedDevice := by
  unfold ofReply
  dsimp only
  rw [value_question]
  by_cases short : (asciiText code).length < shortestCode
  · rw [if_pos short]
    exact ⟨_, rfl, rfl⟩
  rw [if_neg short]
  cases begins : familyDigits.isPrefixOf (asciiText code) with
  | false => exact ⟨_, rfl, rfl⟩
  | true =>
    obtain ⟨rest, rfl⟩ := (asciiText_prefix_iff ascii_family ascii).mp
      (List.isPrefixOf_iff_prefix.mp begins)
    cases digital : (((asciiText (family ++ rest)).drop 2).take 2).all isAnyDigit with
    | false => exact ⟨_, rfl, rfl⟩
    | true =>
      have two : family.length = 2 := rfl
      rw [asciiText, List.length_map, List.length_append, shortestCode] at short
      obtain ⟨tens, ones, more, rfl⟩ : ∃ tens ones more, rest = tens :: ones :: more := by
        rcases rest with _ | ⟨tens, _ | ⟨ones, more⟩⟩
        case cons.cons => exact ⟨tens, ones, more, rfl⟩
        all_goals
          simp only [List.length_nil, List.length_cons] at short
          omega
      have middle : ((asciiText (family ++ tens :: ones :: more)).drop 2).take 2 =
          asciiText [tens, ones] := rfl
      rw [middle] at digital
      simp only [asciiText, List.map_cons, List.map_nil, List.all_cons, List.all_nil, Bool.and_true,
        Bool.and_eq_true] at digital
      simp only [List.forall_mem_append, List.forall_mem_cons] at ascii
      have further : more ≠ [] := by
        rintro rfl
        simp only [List.length_cons, List.length_nil] at short
        omega
      exact absurd (.code ((isAnyDigit_ofNat ascii.2.1).mp digital.1)
        ((isAnyDigit_ofNat ascii.2.2.1).mp digital.2) further) (none _)

end

/-- What is made of a line that was read after the question. -/
def ofLine (line : List UInt8) : Except Fault Identity :=
  (Exchange.heard line).bind fun reply =>
    (Reply.checkData Command.readModel.text reply).bind ofReply

section
variable {line : List UInt8}

theorem toList_tag_question : (Reply.tag Command.readModel.text).toList = asciiText question :=
  Reply.toList_tag (ascii_of_all (by decide))

/-- A reply that repeats the question, with a code of a length that a line can have. -/
theorem checkData_question {code : List UInt8} (some : code ≠ [])
    (room : (question ++ code).length ≤ 32) :
    Reply.checkData Command.readModel.text (String.ofList (asciiText (question ++ code))) =
      .ok (String.ofList (asciiText (question ++ code))) := by
  have nonempty := List.length_pos_iff.mpr some
  have four : question.length = 4 := rfl
  rw [List.length_append] at room
  apply Reply.checkData_ok
  · rw [String.toList_ofList, asciiText, List.length_map, List.length_append, Reply.tagLength]
    omega
  · rw [String.toList_ofList, asciiText, List.length_map, List.length_append, Reply.longest]
    omega
  · rw [toList_tag_question, String.toList_ofList]
    exact (List.prefix_append _ _).map _

theorem Codes.ne_nil {code : List UInt8} {identity : Identity} (codes : Codes code identity) :
    code ≠ [] := by
  cases codes
  exact List.cons_ne_nil _ _

/-- A line that announces an identity is taken for it. -/
theorem Announces.taken {identity : Identity} (announces : Announces line identity) :
    ofLine line = .ok identity := by
  obtain ⟨ascii, content, room, codes⟩ := announces
  have nonempty : line ≠ [] := by
    rintro rfl
    cases content
  have narrow := Exchange.ascii_stripped ascii
  have heard : Exchange.heard line = .ok (String.ofList (asciiText (Reply.stripped line))) := by
    rw [← Reply.ofLine_stripped ascii, Exchange.heard, if_neg (by simpa using nonempty)]
  rw [content] at heard room narrow
  rw [ofLine, heard, bind_ok, checkData_question codes.ne_nil room, bind_ok]
  cases codes with
  | code first second further =>
    exact ofReply_code first second further fun byte member =>
      narrow byte (List.mem_append_right _ member)

/-- Every line announces an identity or is refused. -/
theorem announced_or_refused (line : List UInt8) :
    (∃ identity, Announces line identity) ∨
      ∃ fault, ofLine line = .error fault ∧ Unannounced line fault.kind := by
  rcases Exchange.heard_cases line with ⟨empty, same⟩ | ⟨wide, same⟩ | ⟨nonempty, ascii, same⟩
  · exact Or.inr ⟨.noReply "50", by rw [ofLine, same]; rfl, .silent empty⟩
  · exact Or.inr ⟨.notAscii line, by rw [ofLine, same]; rfl, .wide wide⟩
  have size : (String.ofList (asciiText (Reply.stripped line))).toList.length =
      (Reply.stripped line).length := by
    rw [String.toList_ofList, asciiText, List.length_map]
  have narrow := Exchange.ascii_stripped ascii
  rw [ofLine, same, bind_ok]
  rcases Reply.checkData_cases Command.readModel.text
    (String.ofList (asciiText (Reply.stripped line))) with
    ⟨short, refused⟩ | ⟨beyond, fault, refused, kind⟩ | ⟨beyond, room, begins, taken⟩
  · rw [size] at short
    exact Or.inr ⟨.noValue _ _, by rw [refused]; rfl,
      .brief nonempty ascii (Reply.brief_iff.mpr short)⟩
  · refine Or.inr ⟨fault, by rw [refused]; rfl, ?_⟩
    rw [size] at beyond
    rw [kind]
    by_cases long : 32 < (Reply.stripped line).length
    · exact .long ascii long
    · refine .unlike ascii (fun brief => Nat.not_le.mpr beyond (Reply.brief_iff.mp brief)) ?_
      rintro ⟨code, content⟩
      have some : code ≠ [] := by
        rintro rfl
        rw [← content] at beyond
        exact absurd beyond (by decide)
      rw [← content] at refused long
      rw [checkData_question some (Nat.not_lt.mp long)] at refused
      cases refused
  · rw [size] at beyond room
    rw [toList_tag_question, String.toList_ofList, asciiText_prefix_iff ascii_question narrow] at begins
    obtain ⟨code, content⟩ := begins
    by_cases known : ∃ identity, Codes code identity
    · obtain ⟨identity, codes⟩ := known
      exact Or.inl ⟨identity, .reply ascii content.symm room codes⟩
    · have none : ∀ identity, ¬ Codes code identity := fun identity codes => known ⟨identity, codes⟩
      have some : code ≠ [] := by
        rintro rfl
        rw [← content] at beyond
        exact absurd beyond (by decide)
      rw [taken, bind_ok, ← content]
      rw [← content] at narrow
      obtain ⟨fault, judged, kind⟩ := ofReply_foreign
        (fun byte member => narrow byte (List.mem_append_right _ member)) none
      exact Or.inr ⟨fault, judged, kind ▸ .foreign ascii content.symm some room none⟩

/-- A line is taken for the identity that it announces, and for no other. -/
theorem ofLine_iff {identity : Identity} : ofLine line = .ok identity ↔ Announces line identity := by
  refine ⟨fun taken => ?_, Announces.taken⟩
  rcases announced_or_refused line with ⟨other, announces⟩ | ⟨fault, refused, _⟩
  · cases Except.ok.inj (announces.taken.symm.trans taken)
    exact announces
  · cases taken.symm.trans refused

theorem Announces.maxFrequency {identity : Identity} (announces : Announces line identity) :
    ∃ hertz : Int, identity.maxFrequency = .integer hertz ∧ 0 ≤ hertz ∧ hertz ≤ 99000000 := by
  obtain ⟨_, _, _, codes⟩ := announces
  cases codes with
  | code first second => exact named_maxFrequency first second _

end

theorem identify_eq (port : Port) :
    identify port = (Exchange.send port Command.readModel.text).bind fun _ =>
      (Exchange.receive port Exchange.timeout).bind fun reply =>
        Program.ofExcept ((Reply.checkData Command.readModel.text reply).bind ofReply) := by
  simp only [identify, Exchange.query, Program.bind_eq, Program.bind_assoc, Exchange.ofExcept_bind]

section
variable {σ : Type} {answer : σ → (request : Request) → request.Answer × σ} {port : Port}
  {line : List UInt8}

/-- Identification is exact. A generator is identified by the lines that announce it and by no others,
with a highest frequency between zero and 99 MHz, and every other line is refused for what it is. -/
theorem identification_exact (steady : Steady answer port line) (state : σ) :
    let ending := ((identify port).runIn answer state).1
    (∀ identity, ending = .result identity ↔ Announces line identity) ∧
      (∀ identity, Announces line identity →
        ∃ hertz : Int, identity.maxFrequency = .integer hertz ∧ 0 ≤ hertz ∧ hertz ≤ 99000000) ∧
      ((∀ identity, ¬ Announces line identity) →
        ∃ fault, ending = .fault fault ∧ Unannounced line fault.kind) := by
  have identified : ((identify port).runIn answer state).1 = .ofExcept (ofLine line) := by
    rw [identify_eq]
    exact Exchange.judged_runIn steady (ascii_of_all (by decide +kernel)) _ state
  intro ending
  simp only [ending, identified]
  refine ⟨fun identity => Outcome.ofExcept_eq_result.trans ofLine_iff,
    fun identity => Announces.maxFrequency, fun none => ?_⟩
  rcases announced_or_refused line with ⟨identity, announces⟩ | ⟨fault, refused, reason⟩
  · exact absurd announces (none identity)
  · exact ⟨fault, Outcome.ofExcept_eq_fault.mpr refused, reason⟩

end

/-- A reply without a further character after the digits of the frequency names no generator, and one
with such a character does. -/
theorem identification_exact_shortest :
    let line := asciiBytes ":r0c5206x\r\n".toList
    let brief := asciiBytes ":r0c5206\r\n".toList
    let ending := fun line => ((identify ⟨0, "bench"⟩).runIn (Exchange.repeating line) (Bench.empty ⟨0⟩)).1
    ending line = .result ⟨"MHS-06x", .integer 6000000⟩ ∧
      ∃ fault, ending brief = .fault fault ∧ Unannounced brief fault.kind := by
  have steady : ∀ line, Steady (Exchange.repeating line) ⟨0, "bench"⟩ line :=
    fun line => ⟨fun _ _ _ => rfl, fun _ _ => rfl⟩
  intro line brief ending
  have announces : Announces line (named 48 54 (asciiBytes ['x'])) :=
    .reply (byte_lt (ascii_of_all (by decide +kernel))) (by decide +kernel) (by decide +kernel)
      (.code ⟨by decide, by decide⟩ ⟨by decide, by decide⟩ (by decide))
  have none : ∀ identity, ¬ Announces brief identity := by
    rintro identity ⟨_, content, _, codes⟩
    have size : (Reply.stripped brief).length = 8 := by decide +kernel
    cases codes with
    | @code tens ones more _ _ further =>
      have nonempty := List.length_pos_iff.mpr further
      have four : question.length = 4 := rfl
      have two : family.length = 2 := rfl
      rw [content, List.length_append, List.length_append, List.length_cons, List.length_cons] at size
      omega
  exact ⟨((identification_exact (steady line) (Bench.empty ⟨0⟩)).1 _).mpr announces,
    (identification_exact (steady brief) (Bench.empty ⟨0⟩)).2.2 none⟩

end Identity

end SignalGenerator
