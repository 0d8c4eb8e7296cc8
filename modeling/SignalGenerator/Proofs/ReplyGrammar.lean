import Mathlib.Data.List.DropRight
import Mathlib.Data.Nat.Digits.Defs
import SignalGenerator.Proofs.Device
import SignalGenerator.Proofs.Lines

/-!
The grammar of replies, on the bytes of a line. A reading takes exactly the first four characters of its
command with a decimal numeral after them, an order takes exactly an acknowledgement, and whatever line
ends come last does not matter. Every other line is refused, and the kind of the fault tells why.
-/

namespace SignalGenerator

/-- The ASCII characters of bytes. -/
def asciiText (bytes : List UInt8) : List Char := bytes.map fun byte => Char.ofNat byte.toNat

/-- The bytes of ASCII characters. -/
def asciiBytes (text : List Char) : List UInt8 := text.map fun c => UInt8.ofNat c.toNat

theorem bind_ok {ε α β : Type} (value : α) (next : α → Except ε β) :
    (Except.ok value).bind next = next value := rfl

namespace Reply

/-- Carriage returns and line feeds in any order, or nothing. -/
def LineEnds (bytes : List UInt8) : Prop := ∀ byte ∈ bytes, byte = 13 ∨ byte = 10

/-- The bytes of the word that acknowledges. -/
def okBytes : List UInt8 := [111, 107]

/-- The number that ASCII digits denote in decimal; the last one counts the ones. -/
def magnitude (digits : List UInt8) : Nat :=
  Nat.ofDigits 10 (digits.reverse.map fun byte => byte.toNat - 48)

def Digits (bytes : List UInt8) : Prop := bytes ≠ [] ∧ ∀ byte ∈ bytes, 48 ≤ byte ∧ byte ≤ 57

/-- A decimal numeral with the integer that it denotes: digits, also with zeros in front, and a minus
sign before them or none. -/
inductive Denotes : List UInt8 → Int → Prop
  | plain {digits} : Digits digits → Denotes digits (magnitude digits)
  | minus {digits} : Digits digits → Denotes (45 :: digits) (-(magnitude digits : Int))

/-- A line that answers a command with an integer. -/
def Valued (command : String) (line : List UInt8) (n : Int) : Prop :=
  ∃ numeral ends, line = asciiBytes (command.toList.take 4) ++ numeral ++ ends ∧
    Denotes numeral n ∧ 4 + numeral.length ≤ 32 ∧ LineEnds ends

/-- A line that acknowledges. -/
def Acknowledges (line : List UInt8) : Prop :=
  line ≠ [] ∧ ∃ ends, LineEnds ends ∧ (line = ends ∨ line = okBytes ++ ends)

/-- A line without room for a value: besides its line ends there is an acknowledgement, or no more than
the repeated command. -/
def Brief (line : List UInt8) : Prop :=
  ∃ content ends, line = content ++ ends ∧ LineEnds ends ∧
    (content = [] ∨ content = okBytes ∨ content.length ≤ 4)

/-- Why a line is refused, by what the command has to be answered with. -/
inductive Refused (line : List UInt8) : Expectation → Fault.Kind → Prop
  | silent {expected} : line = [] → Refused line expected .transport
  | wide {expected} : (∃ byte ∈ line, 128 ≤ byte) → Refused line expected .unexpectedReply
  | brief : line ≠ [] → (∀ byte ∈ line, byte < 128) → Brief line →
      Refused line .integer .shortReply
  | unlike : line ≠ [] → (∀ byte ∈ line, byte < 128) → ¬ Brief line →
      Refused line .integer .unexpectedReply
  | unacknowledged : line ≠ [] → (∀ byte ∈ line, byte < 128) →
      Refused line .acknowledgement .unexpectedReply

def isLineEnd (byte : UInt8) : Bool := byte = 13 || byte = 10

/-- A line without the line ends that it ends with. -/
def stripped (line : List UInt8) : List UInt8 := line.rdropWhile isLineEnd

variable {line content ends : List UInt8}

theorem isLineEnd_iff {byte : UInt8} : isLineEnd byte = true ↔ byte = 13 ∨ byte = 10 := by
  rw [isLineEnd, Bool.or_eq_true, decide_eq_true_eq, decide_eq_true_eq]

theorem lineEnds_iff : LineEnds ends ↔ ∀ byte ∈ ends, isLineEnd byte = true := by
  simp only [LineEnds, isLineEnd_iff]

theorem stripped_append (last : LineEnds ends) : stripped (content ++ ends) = stripped content := by
  have all : ∀ byte ∈ ends.reverse, isLineEnd byte = true :=
    fun byte member => lineEnds_iff.mp last byte (List.mem_reverse.mp member)
  rw [stripped, stripped, List.rdropWhile, List.rdropWhile, List.reverse_append,
    List.dropWhile_append_of_pos all]

/-- What a line consists of. -/
theorem stripped_ends (line : List UInt8) : ∃ ends, LineEnds ends ∧ line = stripped line ++ ends :=
  ⟨line.rtakeWhile isLineEnd, lineEnds_iff.mpr fun _ => List.mem_rtakeWhile_imp,
    List.rdropWhile_append_rtakeWhile.symm⟩

/-- Characters that end a line are the ones of the bytes that end it. -/
theorem isTerminator_ofNat (byte : UInt8) :
    isTerminator (Char.ofNat byte.toNat) = isLineEnd byte := by
  have all : ∀ n < 256, isTerminator (Char.ofNat n) = (n = 13 || n = 10 : Bool) := by decide +kernel
  rw [all byte.toNat byte.toNat_lt, isLineEnd]
  simp only [← UInt8.toNat_inj, UInt8.reduceToNat]

theorem ofLine_stripped (ascii : ∀ byte ∈ line, byte < 128) :
    ofLine line = .ok (String.ofList (asciiText (stripped line))) := by
  have narrow : line.all (· < 128) = true :=
    List.all_eq_true.mpr fun byte member => decide_eq_true (ascii byte member)
  have same : isTerminator ∘ (fun byte : UInt8 => Char.ofNat byte.toNat) = isLineEnd :=
    funext isTerminator_ofNat
  unfold ofLine
  rw [if_pos narrow]
  dsimp only
  rw [← List.map_reverse, List.dropWhile_map, same, ← List.map_reverse]
  rfl

theorem toNat_ofNat_byte {byte : UInt8} (ascii : byte < 128) :
    (Char.ofNat byte.toNat).toNat = byte.toNat := by
  have all : ∀ n < 128, (Char.ofNat n).toNat = n := by decide
  exact all byte.toNat ascii

/-- Bytes are found again from their ASCII characters. -/
theorem asciiBytes_asciiText {bytes : List UInt8} (ascii : ∀ byte ∈ bytes, byte < 128) :
    asciiBytes (asciiText bytes) = bytes := by
  unfold asciiBytes asciiText
  rw [List.map_map]
  refine (List.map_congr_left fun byte member => ?_).trans (List.map_id bytes)
  rw [Function.comp_apply, toNat_ofNat_byte (ascii byte member), UInt8.ofNat_toNat]
  rfl

theorem isDigit_ofNat {byte : UInt8} (ascii : byte < 128) :
    (Char.ofNat byte.toNat).isDigit = true ↔ 48 ≤ byte ∧ byte ≤ 57 := by
  have all : ∀ n < 128, (Char.ofNat n).isDigit = true ↔ 48 ≤ n ∧ n ≤ 57 := by decide
  exact all byte.toNat ascii

theorem ofDigitChars_asciiText {digits : List UInt8} (ascii : ∀ byte ∈ digits, byte < 128) :
    Nat.ofDigitChars 10 (asciiText digits) 0 = magnitude digits := by
  induction digits using List.reverseRecOn with
  | nil => rfl
  | append_singleton front last ih =>
    have earlier := ih fun byte member => ascii byte (List.mem_append_left _ member)
    have units := toNat_ofNat_byte (ascii last List.mem_append_cons_self)
    unfold asciiText magnitude at earlier ⊢
    rw [List.map_append, Nat.ofDigitChars_append, earlier, List.reverse_append]
    simp only [List.map_cons, List.map_nil, Nat.ofDigitChars_cons, Nat.ofDigitChars_nil, units,
      List.reverse_singleton, List.singleton_append, Nat.ofDigits_cons]
    exact Nat.add_comm _ _

theorem natural?_iff {digits : List UInt8} {n : Nat} (ascii : ∀ byte ∈ digits, byte < 128) :
    natural? (asciiText digits) = some n ↔ Digits digits ∧ n = magnitude digits := by
  have nonempty : (asciiText digits).isEmpty = false ↔ digits ≠ [] := by
    rw [List.isEmpty_eq_false_iff, asciiText, ne_eq, List.map_eq_nil_iff]
  have digital : (asciiText digits).all Char.isDigit = true ↔
      ∀ byte ∈ digits, 48 ≤ byte ∧ byte ≤ 57 := by
    rw [List.all_eq_true, asciiText, List.forall_mem_map]
    exact forall₂_congr fun byte member => isDigit_ofNat (ascii byte member)
  unfold natural? Digits
  rw [ofDigitChars_asciiText ascii, ← nonempty, ← digital]
  by_cases plain : (asciiText digits).isEmpty = false ∧ (asciiText digits).all Char.isDigit = true
  · rw [if_pos (by simpa only [Bool.and_eq_true, Bool.not_eq_true'] using plain), Option.some.injEq]
    exact ⟨fun same => ⟨plain, same.symm⟩, fun given => given.2.symm⟩
  · rw [if_neg (by simpa only [Bool.and_eq_true, Bool.not_eq_true'] using plain)]
    exact ⟨nofun, fun given => absurd given.1 plain⟩

/-- Without a minus sign in front a text is read as a natural number. -/
theorem integer?_plain {text : List Char} (plain : text.head? ≠ some '-') :
    integer? (String.ofList text) = (natural? text).map fun (n : Nat) => (n : Int) := by
  unfold integer?
  rw [String.toList_ofList]
  split
  · exact absurd rfl plain
  · rfl

theorem integer?_minus (text : List Char) :
    integer? (String.ofList ('-' :: text)) = (natural? text).map fun (n : Nat) => -(n : Int) := by
  unfold integer?
  rw [String.toList_ofList]
  rfl

/-- A text is read as the integer that it denotes, and as nothing else. -/
theorem integer?_iff {numeral : List UInt8} {n : Int} (ascii : ∀ byte ∈ numeral, byte < 128) :
    integer? (String.ofList (asciiText numeral)) = some n ↔ Denotes numeral n := by
  by_cases minus : numeral.head? = some 45
  · obtain ⟨digits, rfl⟩ := List.head?_eq_some_iff.mp minus
    have signed : asciiText (45 :: digits) = '-' :: asciiText digits := rfl
    have read := @natural?_iff digits
    rw [signed, integer?_minus, Option.map_eq_some_iff]
    rw [List.forall_mem_cons] at ascii
    constructor
    · rintro ⟨m, given, rfl⟩
      obtain ⟨digital, rfl⟩ := (read ascii.2).mp given
      exact .minus digital
    · intro denotes
      cases denotes with
      | plain digital => exact absurd (digital.2 45 List.mem_cons_self) (by decide)
      | minus digital => exact ⟨_, (read ascii.2).mpr ⟨digital, rfl⟩, rfl⟩
  · have plain : (asciiText numeral).head? ≠ some '-' := by
      intro same
      rw [asciiText, List.head?_map, Option.map_eq_some_iff] at same
      obtain ⟨byte, first, character⟩ := same
      have small := ascii byte (List.mem_of_head? first)
      have code := toNat_ofNat_byte small
      rw [character] at code
      rw [UInt8.toNat_inj.mp (code.symm.trans rfl : byte.toNat = (45 : UInt8).toNat)] at first
      exact minus first
    rw [integer?_plain plain, Option.map_eq_some_iff]
    constructor
    · rintro ⟨m, given, rfl⟩
      obtain ⟨digital, rfl⟩ := (natural?_iff ascii).mp given
      exact .plain digital
    · intro denotes
      cases denotes with
      | plain digital => exact ⟨_, (natural?_iff ascii).mpr ⟨digital, rfl⟩, rfl⟩
      | minus => exact absurd rfl minus

theorem Denotes.ascii {numeral : List UInt8} {n : Int} (denotes : Denotes numeral n) :
    ∀ byte ∈ numeral, byte < 128 := by
  have digital : ∀ {digits}, Digits digits → ∀ byte ∈ digits, byte < 128 := by
    intro digits digital byte member
    exact UInt8.lt_of_le_of_lt (digital.2 byte member).2 (by decide)
  cases denotes with
  | plain given => exact digital given
  | minus given =>
    rw [List.forall_mem_cons]
    exact ⟨by decide, digital given⟩

theorem Denotes.length_pos {numeral : List UInt8} {n : Int} (denotes : Denotes numeral n) :
    0 < numeral.length := by
  cases denotes with
  | plain digital => exact List.length_pos_iff.mpr digital.1
  | minus _ => exact Nat.succ_pos _

/-- A numeral ends with a digit. -/
theorem Denotes.stripped {front numeral : List UInt8} {n : Int} (denotes : Denotes numeral n) :
    stripped (front ++ numeral) = front ++ numeral := by
  have last : ∀ {digits : List UInt8}, Digits digits → ∀ nonempty : digits ≠ [],
      ¬ isLineEnd (digits.getLast nonempty) = true := by
    intro digits digital nonempty ends
    have bound := (digital.2 _ (List.getLast_mem nonempty)).1
    rcases isLineEnd_iff.mp ends with same | same <;> rw [same] at bound <;>
      exact absurd bound (by decide)
  refine List.rdropWhile_eq_self_iff.mpr fun nonempty => ?_
  cases denotes with
  | plain digital =>
    rw [List.getLast_append_of_ne_nil nonempty digital.1]
    exact last digital digital.1
  | @minus digits digital =>
    rw [List.getLast_append_of_ne_nil nonempty (List.cons_ne_nil _ _), List.getLast_cons digital.1]
    exact last digital digital.1

/-- What a reading makes of a reply: it is too short for a value, or it is refused for what stands in
it, or it fits a line and repeats the command. -/
theorem checkData_cases (command reply : String) :
    (reply.toList.length ≤ tagLength ∧ checkData command reply = .error (.noValue command reply)) ∨
      (tagLength < reply.toList.length ∧
        ∃ fault, checkData command reply = .error fault ∧ fault.kind = .unexpectedReply) ∨
      (tagLength < reply.toList.length ∧ reply.toList.length ≤ longest ∧
        (tag command).toList <+: reply.toList ∧ checkData command reply = .ok reply) := by
  by_cases short : reply.toList.length ≤ tagLength
  · refine Or.inl ⟨short, ?_⟩
    unfold checkData
    dsimp only
    rw [decide_eq_true short, Bool.or_true, if_pos rfl]
  · have word : isAcknowledgement reply = false := by
      refine Bool.eq_false_iff.mpr fun word => ?_
      have two := length_of_isAcknowledgement word
      unfold tagLength at short
      omega
    have long := Nat.not_le.mp short
    unfold checkData
    dsimp only
    rw [word, decide_eq_false short, Bool.or_false, if_neg Bool.false_ne_true]
    by_cases beyond : longest < reply.toList.length
    · rw [if_pos beyond]
      exact Or.inr (Or.inl ⟨long, _, rfl, rfl⟩)
    · rw [if_neg beyond]
      cases echoed : (tag command).toList.isPrefixOf reply.toList with
      | false => exact Or.inr (Or.inl ⟨long, _, rfl, rfl⟩)
      | true =>
        have begins := List.isPrefixOf_iff_prefix.mp echoed
        exact Or.inr (Or.inr ⟨long, Nat.not_lt.mp beyond, begins, rfl⟩)

section
variable {command : String} {n : Int}

theorem valued_iff : Valued command line n ↔
    ∃ numeral, stripped line = asciiBytes (command.toList.take 4) ++ numeral ∧
      Denotes numeral n ∧ 4 + numeral.length ≤ 32 := by
  constructor
  · rintro ⟨numeral, ends, rfl, denotes, room, last⟩
    exact ⟨numeral, (stripped_append last).trans denotes.stripped, denotes, room⟩
  · rintro ⟨numeral, same, denotes, room⟩
    obtain ⟨ends, last, whole⟩ := stripped_ends line
    exact ⟨numeral, ends, same ▸ whole, denotes, room, last⟩

theorem acknowledges_iff : Acknowledges line ↔
    line ≠ [] ∧ (stripped line = [] ∨ stripped line = okBytes) := by
  refine and_congr_right fun _ => ?_
  constructor
  · rintro ⟨ends, last, rfl | rfl⟩
    · exact Or.inl (@stripped_append [] _ last)
    · exact Or.inr (stripped_append last)
  · obtain ⟨ends, last, whole⟩ := stripped_ends line
    rintro (none | word)
    · exact ⟨ends, last, Or.inl (by rw [whole, none, List.nil_append])⟩
    · exact ⟨ends, last, Or.inr (by rw [← word]; exact whole)⟩

theorem brief_iff : Brief line ↔ (stripped line).length ≤ 4 := by
  constructor
  · rintro ⟨content, ends, rfl, last, short⟩
    have front := (List.rdropWhile_prefix (l := content) isLineEnd).length_le
    rw [stripped_append last]
    rcases short with rfl | rfl | short
    · decide
    · decide
    · exact front.trans short
  · intro short
    obtain ⟨ends, last, whole⟩ := stripped_ends line
    exact ⟨_, ends, whole, last, Or.inr (Or.inr short)⟩

variable (plain : ∀ c ∈ command.toList, c.toNat < 128) (long : 4 ≤ command.toList.length)

include plain in
theorem ascii_tag : ∀ byte ∈ asciiBytes (command.toList.take 4), byte < 128 :=
  byte_lt fun c member => plain c (List.mem_of_mem_take member)

include plain in
theorem Valued.ascii (valued : Valued command line n) : ∀ byte ∈ line, byte < 128 := by
  obtain ⟨numeral, ends, rfl, denotes, _, last⟩ := valued
  intro byte member
  rcases List.mem_append.mp member with front | inEnds
  · rcases List.mem_append.mp front with inTag | inNumeral
    · exact ascii_tag plain byte inTag
    · exact denotes.ascii byte inNumeral
  · rcases last byte inEnds with rfl | rfl <;> decide

theorem ascii_okBytes : ∀ byte ∈ okBytes, byte < 128 :=
  List.forall_mem_cons.mpr ⟨by decide, List.forall_mem_singleton.mpr (by decide)⟩

theorem Acknowledges.ascii (acknowledges : Acknowledges line) : ∀ byte ∈ line, byte < 128 := by
  obtain ⟨_, ends, last, rfl | rfl⟩ := acknowledges
  · intro byte member
    rcases last byte member with rfl | rfl <;> decide
  · intro byte member
    rcases List.mem_append.mp member with inWord | inEnds
    · exact ascii_okBytes byte inWord
    · rcases last byte inEnds with rfl | rfl <;> decide

include plain in
theorem toList_tag : (tag command).toList = asciiText (asciiBytes (command.toList.take 4)) := by
  rw [tag, String.toList_ofList]
  exact (map_bytes fun c member => plain c (List.mem_of_mem_take member)).symm

include long in
theorem length_tag : (asciiBytes (command.toList.take 4)).length = tagLength := by
  rw [asciiBytes, List.length_map, List.length_take, Nat.min_eq_left long, tagLength]

include long in
theorem value_tagged (numeral : List UInt8) :
    value (String.ofList (asciiText (asciiBytes (command.toList.take 4) ++ numeral))) =
      String.ofList (asciiText numeral) := by
  rw [value, String.toList_ofList, asciiText, ← List.map_drop, List.drop_left' (length_tag long)]
  rfl

include plain long in
/-- What follows the repeated command in a reply that is taken for an integer is a numeral for it. -/
theorem denotes_of_integer (ascii : ∀ byte ∈ content, byte < 128)
    (judged : (checkData command (String.ofList (asciiText content))).bind (integer command) = .ok n) :
    ∃ numeral, content = asciiBytes (command.toList.take 4) ++ numeral ∧ Denotes numeral n ∧
      4 + numeral.length ≤ 32 := by
  obtain ⟨checked, denoted⟩ := of_checked_integer judged
  rcases checkData_cases command (String.ofList (asciiText content)) with
    ⟨_, refused⟩ | ⟨_, _, refused, _⟩ | ⟨_, short, begins, _⟩
  · cases checked.symm.trans refused
  · cases checked.symm.trans refused
  · rw [toList_tag plain, String.toList_ofList, asciiText, asciiText, List.prefix_map_iff] at begins
    obtain ⟨front, ⟨numeral, rfl⟩, same⟩ := begins
    have repeated : front = asciiBytes (command.toList.take 4) := by
      rw [← asciiBytes_asciiText fun byte member => ascii byte (List.mem_append_left _ member),
        ← asciiBytes_asciiText (ascii_tag plain)]
      exact congrArg asciiBytes same.symm
    subst repeated
    have small : ∀ byte ∈ numeral, byte < 128 :=
      fun byte member => ascii byte (List.mem_append_right _ member)
    rw [String.toList_ofList, asciiText, List.length_map, List.length_append, length_tag long] at short
    unfold integer at denoted
    rw [value_tagged long] at denoted
    split at denoted
    · rename_i m read
      cases Except.ok.inj denoted
      exact ⟨numeral, rfl, (integer?_iff small).mp read, short⟩
    · cases denoted

include plain long in
/-- A numeral that follows the repeated command is taken for its integer, if it fits a line. -/
theorem integer_of_denotes {numeral : List UInt8} (denotes : Denotes numeral n)
    (room : 4 + numeral.length ≤ 32) :
    (checkData command (String.ofList (asciiText (asciiBytes (command.toList.take 4) ++ numeral)))).bind
      (integer command) = .ok n := by
  have nonempty := denotes.length_pos
  have read := value_tagged long numeral
  have size : (asciiText (asciiBytes (command.toList.take 4) ++ numeral)).length =
      tagLength + numeral.length := by
    rw [asciiText, List.length_map, List.length_append, length_tag long]
  have begins : (tag command).toList <+:
      asciiText (asciiBytes (command.toList.take 4) ++ numeral) := by
    rw [toList_tag plain, asciiText, asciiText, List.map_append]
    exact List.prefix_append _ _
  generalize asciiText (asciiBytes (command.toList.take 4) ++ numeral) = text at read size begins ⊢
  have own : (String.ofList text).toList = text := String.toList_ofList
  rw [← own] at size begins
  have passed := checkData_ok (size ▸ Nat.lt_add_of_pos_right nonempty) (size ▸ room) begins
  rw [passed, bind_ok, integer, read, (integer?_iff denotes.ascii).mpr denotes]

/-- A reply that is not taken for an integer is short, or it is unexpected. -/
theorem kind_of_refused_integer {reply : String} {fault : Fault}
    (refused : (checkData command reply).bind (integer command) = .error fault) :
    fault.kind = if reply.toList.length ≤ tagLength then .shortReply else .unexpectedReply := by
  rcases checkData_cases command reply with ⟨short, checked⟩ | ⟨long, _, checked, kind⟩ |
    ⟨long, _, _, checked⟩
  · rw [checked] at refused
    cases Except.error.inj refused
    rw [if_pos short]
    rfl
  · rw [checked] at refused
    cases Except.error.inj refused
    rw [if_neg (Nat.not_le.mpr long), kind]
  · rw [checked, bind_ok, integer] at refused
    split at refused
    · cases refused
    · cases Except.error.inj refused
      rw [if_neg (Nat.not_le.mpr long)]
      rfl

theorem acknowledge_iff (ascii : ∀ byte ∈ content, byte < 128) :
    acknowledge command (String.ofList (asciiText content)) = .ok () ↔
      content = [] ∨ content = okBytes := by
  have same : ∀ word : List UInt8, (∀ byte ∈ word, byte < 128) →
      (String.ofList (asciiText content) = String.ofList (asciiText word) ↔ content = word) := by
    intro word small
    refine ⟨fun texts => ?_, fun given => given ▸ rfl⟩
    rw [← asciiBytes_asciiText ascii, ← asciiBytes_asciiText small, String.ofList_inj.mp texts]
  have empty : "" = String.ofList (asciiText []) := rfl
  have ok : "ok" = String.ofList (asciiText okBytes) := by decide
  unfold acknowledge isAcknowledgement
  rw [empty, ok]
  by_cases word : content = [] ∨ content = okBytes
  · rw [if_pos]
    · exact ⟨fun _ => word, fun _ => rfl⟩
    · rwa [Bool.or_eq_true, decide_eq_true_eq, decide_eq_true_eq, same [] nofun,
        same okBytes ascii_okBytes]
  · rw [if_neg]
    · exact ⟨nofun, fun given => absurd given word⟩
    · rwa [Bool.or_eq_true, decide_eq_true_eq, decide_eq_true_eq, same [] nofun,
        same okBytes ascii_okBytes]

/-- The decimal text of an integer denotes it. -/
theorem denotes_toString (n : Int) : Denotes (asciiBytes (toString n).toList) n := by
  have ascii : ∀ c ∈ (toString n).toList, c.toNat < 128 := fun c member => (inline_toString c member).1
  have text : asciiText (asciiBytes (toString n).toList) = (toString n).toList := map_bytes ascii
  have read : integer? (String.ofList (asciiText (asciiBytes (toString n).toList))) = some n := by
    rw [text, String.ofList_toList, integer?_toString]
  exact (integer?_iff (byte_lt ascii)).mp read

/-- A line with a value is no acknowledgement. -/
theorem Valued.not_acknowledges (valued : Valued command line n) (long : 4 ≤ command.toList.length) :
    ¬ Acknowledges line := by
  intro acknowledges
  obtain ⟨numeral, same, _, _⟩ := valued_iff.mp valued
  have size : tagLength ≤ (stripped line).length := by
    rw [same, List.length_append, length_tag long]
    exact Nat.le_add_right _ _
  rcases (acknowledges_iff.mp acknowledges).2 with none | word
  · rw [none] at size
    exact absurd size (by decide)
  · rw [word] at size
    exact absurd size (by decide)

end

end Reply

/-- The ending of a program that ends with what a computation has given. -/
def Outcome.ofExcept {α : Type} : Except Fault α → Outcome α
  | .ok value => .result value
  | .error cause => .fault cause

theorem Outcome.ofExcept_eq_result {α : Type} {answer : Except Fault α} {value : α} :
    ofExcept answer = .result value ↔ answer = .ok value := by
  cases answer <;> simp [ofExcept]

theorem Outcome.ofExcept_eq_fault {α : Type} {answer : Except Fault α} {cause : Fault} :
    ofExcept answer = .fault cause ↔ answer = .error cause := by
  cases answer <;> simp [ofExcept]

/-- Surroundings in which a port takes every line in full, and gives the same line whenever one is
read. -/
structure Steady {σ : Type} (answer : σ → (request : Request) → request.Answer × σ) (port : Port)
    (line : List UInt8) : Prop where
  takes : ∀ state timeout sent, (answer state (.write port timeout sent)).1 = .ok (sent.length : Int)
  gives : ∀ state timeout, (answer state (.readLine port timeout)).1 = .ok line

namespace Exchange

/-- What is made of a line that was read. No bytes stand for silence. -/
def heard (line : List UInt8) : Except Fault String :=
  if line.isEmpty then .error (.noReply "50") else Reply.ofLine line

theorem millisecondsText_timeout : millisecondsText timeout = .ok "50" := by decide +kernel

section
variable {σ : Type} {answer : σ → (request : Request) → request.Answer × σ} {port : Port}
  {line : List UInt8} {command : String}

theorem runIn_ask {α : Type} (request : Request) (next : request.Answer → Program α) (state : σ) :
    (Program.ask request next).runIn answer state =
      (next (answer state request).1).runIn answer (answer state request).2 := rfl

theorem runIn_ofExcept {α : Type} (given : Except Fault α) (state : σ) :
    (Program.ofExcept given).runIn answer state = (.ofExcept given, state) := by
  cases given <;> rfl

theorem receive_runIn {α : Type} (steady : Steady answer port line) (judge : String → Except Fault α)
    (state : σ) :
    (((receive port timeout).bind fun reply => Program.ofExcept (judge reply)).runIn answer state).1 =
      .ofExcept ((heard line).bind judge) := by
  rw [receive_eq]
  simp only [Program.bind, runIn_ask, steady.gives]
  unfold heard
  cases line with
  | nil =>
    simp only [List.isEmpty_nil, if_true, millisecondsText_timeout]
    rfl
  | cons byte rest =>
    simp only [List.isEmpty_cons, Bool.false_eq_true, if_false, ofExcept_bind, runIn_ofExcept]

theorem judged_runIn {α : Type} (steady : Steady answer port line)
    (plain : ∀ c ∈ command.toList, c.toNat < 128) (judge : String → Except Fault α) (state : σ) :
    (((send port command).bind fun _ => (receive port timeout).bind fun reply =>
      Program.ofExcept (judge reply)).runIn answer state).1 = .ofExcept ((heard line).bind judge) := by
  obtain ⟨sent, framed⟩ := frame_of_ascii plain
  rw [send_eq framed]
  simp only [Program.bind, runIn_ask, steady.takes, explain_ok, Program.ofExcept_ok, ne_eq,
    not_true_eq_false, if_false]
  exact receive_runIn steady judge _

theorem heard_cases (line : List UInt8) :
    (line = [] ∧ heard line = .error (.noReply "50")) ∨
      ((∃ byte ∈ line, 128 ≤ byte) ∧ heard line = .error (.notAscii line)) ∨
      (line ≠ [] ∧ (∀ byte ∈ line, byte < 128) ∧
        heard line = .ok (String.ofList (asciiText (Reply.stripped line)))) := by
  unfold heard
  by_cases empty : line = []
  · subst empty
    exact Or.inl ⟨rfl, rfl⟩
  rw [if_neg (by simpa using empty)]
  by_cases ascii : ∀ byte ∈ line, byte < 128
  · exact Or.inr (Or.inr ⟨empty, ascii, Reply.ofLine_stripped ascii⟩)
  · have narrow : ¬ line.all (· < 128) = true := by
      intro all
      exact ascii fun byte member => of_decide_eq_true (List.all_eq_true.mp all byte member)
    simp only [not_forall, UInt8.not_lt] at ascii
    obtain ⟨byte, member, wide⟩ := ascii
    exact Or.inr (Or.inl ⟨⟨byte, member, wide⟩, if_neg narrow⟩)

/-- What a reading makes of a line. -/
def valueOf (command : String) (line : List UInt8) : Except Fault Int :=
  (heard line).bind fun reply => (Reply.checkData command reply).bind (Reply.integer command)

theorem ascii_stripped (ascii : ∀ byte ∈ line, byte < 128) :
    ∀ byte ∈ Reply.stripped line, byte < 128 :=
  fun byte member => ascii byte ((List.rdropWhile_prefix _ _).subset member)

theorem valueOf_iff {n : Int} (plain : ∀ c ∈ command.toList, c.toNat < 128)
    (long : 4 ≤ command.toList.length) : valueOf command line = .ok n ↔ Reply.Valued command line n := by
  unfold valueOf
  rcases heard_cases line with ⟨rfl, same⟩ | ⟨⟨byte, member, wide⟩, same⟩ | ⟨_, ascii, same⟩
  · rw [same]
    refine ⟨nofun, fun valued => ?_⟩
    obtain ⟨numeral, none, denotes, _⟩ := Reply.valued_iff.mp valued
    have size := Reply.length_tag long
    rw [(List.append_eq_nil_iff.mp none.symm).1] at size
    cases size
  · rw [same]
    exact ⟨nofun, fun valued => absurd (valued.ascii plain byte member) (UInt8.not_lt.mpr wide)⟩
  · rw [same, bind_ok, Reply.valued_iff]
    constructor
    · exact Reply.denotes_of_integer plain long (ascii_stripped ascii)
    · rintro ⟨numeral, content, denotes, room⟩
      rw [content]
      exact Reply.integer_of_denotes plain long denotes room

theorem valueOf_refused {fault : Fault} (refused : valueOf command line = .error fault) :
    Reply.Refused line .integer fault.kind := by
  unfold valueOf at refused
  rcases heard_cases line with ⟨empty, same⟩ | ⟨wide, same⟩ | ⟨nonempty, ascii, same⟩
  · rw [same] at refused
    cases refused
    exact .silent empty
  · rw [same] at refused
    cases refused
    exact .wide wide
  · rw [same, bind_ok] at refused
    rw [Reply.kind_of_refused_integer refused, String.toList_ofList, asciiText, List.length_map]
    split
    · rename_i short
      exact .brief nonempty ascii (Reply.brief_iff.mpr short)
    · rename_i long
      exact .unlike nonempty ascii fun brief => long (Reply.brief_iff.mp brief)

/-- What an order makes of a line. -/
def acknowledgementOf (command : String) (line : List UInt8) : Except Fault Unit :=
  (heard line).bind (Reply.acknowledge command)

theorem acknowledgementOf_iff :
    acknowledgementOf command line = .ok () ↔ Reply.Acknowledges line := by
  unfold acknowledgementOf
  rcases heard_cases line with ⟨rfl, same⟩ | ⟨⟨byte, member, wide⟩, same⟩ | ⟨nonempty, ascii, same⟩
  · rw [same]
    exact ⟨nofun, fun acknowledges => absurd rfl acknowledges.1⟩
  · rw [same]
    exact ⟨nofun, fun given => absurd (given.ascii byte member) (UInt8.not_lt.mpr wide)⟩
  · rw [same, bind_ok, Reply.acknowledges_iff]
    refine (Reply.acknowledge_iff (ascii_stripped ascii)).trans ?_
    exact ⟨fun content => ⟨nonempty, content⟩, And.right⟩

theorem acknowledgementOf_refused {fault : Fault}
    (refused : acknowledgementOf command line = .error fault) :
    Reply.Refused line .acknowledgement fault.kind := by
  unfold acknowledgementOf at refused
  rcases heard_cases line with ⟨empty, same⟩ | ⟨wide, same⟩ | ⟨nonempty, ascii, same⟩
  · rw [same] at refused
    cases refused
    exact .silent empty
  · rw [same] at refused
    cases refused
    exact .wide wide
  · rw [same] at refused
    change Reply.acknowledge command _ = .error fault at refused
    unfold Reply.acknowledge at refused
    split at refused
    · cases refused
    · cases refused
      exact .unacknowledged nonempty ascii

/-- Replies are taken exactly by their grammar. A reading gives the integer that follows the repeated
command, an order succeeds with an acknowledgement, no line is taken for both, and every other line is
refused for a reason that depends on the line alone. So every integer with room in a line is read back
from its decimal text. -/
theorem replies_exact (steady : Steady answer port line)
    (plain : ∀ c ∈ command.toList, c.toNat < 128) (long : 4 ≤ command.toList.length) (state : σ) :
    let reading := ((queryInteger port command).runIn answer state).1
    let ordering := ((order port command).runIn answer state).1
    (∀ n, reading = .result n ↔ Reply.Valued command line n) ∧
      (ordering = .result () ↔ Reply.Acknowledges line) ∧
      (∀ n, ¬ (reading = .result n ∧ ordering = .result ())) ∧
      ((∀ n, ¬ Reply.Valued command line n) →
        ∃ fault, reading = .fault fault ∧ Reply.Refused line .integer fault.kind) ∧
      (¬ Reply.Acknowledges line →
        ∃ fault, ordering = .fault fault ∧ Reply.Refused line .acknowledgement fault.kind) ∧
      ∀ (n : Int) ends, (toString n).toList.length ≤ 28 → Reply.LineEnds ends →
        line = asciiBytes (command.toList.take 4) ++ asciiBytes (toString n).toList ++ ends →
        reading = .result n := by
  have read : ((queryInteger port command).runIn answer state).1 =
      .ofExcept (valueOf command line) := by
    rw [queryInteger_eq]
    exact judged_runIn steady plain _ state
  have ordered : ((order port command).runIn answer state).1 =
      .ofExcept (acknowledgementOf command line) := judged_runIn steady plain _ state
  have valued : ∀ n, Outcome.ofExcept (valueOf command line) = .result n ↔
      Reply.Valued command line n :=
    fun n => Outcome.ofExcept_eq_result.trans (valueOf_iff plain long)
  have acknowledged : Outcome.ofExcept (acknowledgementOf command line) = .result () ↔
      Reply.Acknowledges line := Outcome.ofExcept_eq_result.trans acknowledgementOf_iff
  intro reading ordering
  simp only [reading, ordering, read, ordered]
  refine ⟨valued, acknowledged, ?_, ?_, ?_, ?_⟩
  · rintro n ⟨given, taken⟩
    exact ((valued n).mp given).not_acknowledges long (acknowledged.mp taken)
  · intro none
    cases judged : valueOf command line with
    | ok n => exact absurd ((valueOf_iff plain long).mp judged) (none n)
    | error fault => exact ⟨fault, rfl, valueOf_refused judged⟩
  · intro none
    cases judged : acknowledgementOf command line with
    | ok => exact absurd (acknowledgementOf_iff.mp judged) none
    | error fault => exact ⟨fault, rfl, acknowledgementOf_refused judged⟩
  · intro n ends short last same
    refine (valued n).mpr ⟨_, ends, same, Reply.denotes_toString n, ?_, last⟩
    rw [asciiBytes, List.length_map]
    omega

end

/-- A bench on which every port takes every line and gives this one. -/
def repeating (line : List UInt8) (bench : Bench) (request : Request) : request.Answer × Bench :=
  match request with
  | .write _ _ sent => (.ok (sent.length : Int), bench)
  | .readLine _ _ => (.ok line, bench)
  | request => bench.answer request

/-- Zeros in front of a numeral and any line ends are taken, up to 32 characters. -/
theorem replies_exact_zeros :
    let line := asciiBytes ":r1f-000000000000000000000000007\r\r\n".toList
    Steady (repeating line) ⟨0, "bench"⟩ line ∧
      ((queryInteger ⟨0, "bench"⟩ ":r1f").runIn (repeating line) (Bench.empty ⟨0⟩)).1 =
        .result (-7) ∧
      ∃ fault, ((order ⟨0, "bench"⟩ ":r1f").runIn (repeating line) (Bench.empty ⟨0⟩)).1 =
        .fault fault ∧ Reply.Refused line .acknowledgement fault.kind := by
  intro line
  have steady : Steady (repeating line) ⟨0, "bench"⟩ line := ⟨fun _ _ _ => rfl, fun _ _ => rfl⟩
  have plain : ∀ c ∈ ":r1f".toList, c.toNat < 128 := ascii_of_all (by decide +kernel)
  have long : 4 ≤ ":r1f".toList.length := by decide +kernel
  let digits := asciiBytes "000000000000000000000000007".toList
  have valued : Reply.Valued ":r1f" line (-7) := by
    have digital : Reply.Digits digits := ⟨by decide +kernel, by decide +kernel⟩
    have amount : Reply.magnitude digits = 7 := by decide +kernel
    have denotes := Reply.Denotes.minus digital
    rw [amount] at denotes
    exact ⟨45 :: digits, [13, 13, 10], by decide +kernel, denotes, by decide +kernel,
      by simp [Reply.LineEnds]⟩
  obtain ⟨reads, _, _, _, refuses, _⟩ := replies_exact steady plain long (Bench.empty ⟨0⟩)
  exact ⟨steady, (reads _).mpr valued, refuses (valued.not_acknowledges long)⟩

end Exchange

end SignalGenerator
