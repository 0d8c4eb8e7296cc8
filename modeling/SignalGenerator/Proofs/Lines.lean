import SignalGenerator.Proofs.Numerals
import SignalGenerator.Proofs.Transaction

/-!
Lines as bytes. A text of ASCII characters is found again from its bytes, a reply is read without its
line ends, and a command that is repeated with a numeral is answered with the integer.
-/

namespace SignalGenerator

/-- A character that can stand inside a line: ASCII, and not a line end. -/
def Inline (c : Char) : Prop := c.toNat < 128 ∧ Reply.isTerminator c = false

theorem ascii_of_all {text : List Char} (all : text.all (fun c => decide (c.toNat < 128)) = true) :
    ∀ c ∈ text, c.toNat < 128 :=
  fun c member => of_decide_eq_true (List.all_eq_true.mp all c member)

theorem inline_of_all {text : List Char}
    (all : text.all (fun c => decide (c.toNat < 128) && !Reply.isTerminator c) = true) :
    ∀ c ∈ text, Inline c := by
  intro c member
  have inside := List.all_eq_true.mp all c member
  rw [Bool.and_eq_true, decide_eq_true_eq, Bool.not_eq_true'] at inside
  exact inside

theorem inline_of_isDigit {c : Char} (digit : c.isDigit = true) : Inline c := by
  have range := toNat_of_isDigit digit
  refine ⟨by omega, ?_⟩
  unfold Reply.isTerminator
  rw [Bool.or_eq_false_iff, decide_eq_false_iff_not, decide_eq_false_iff_not]
  constructor
  all_goals
    rintro rfl
    exact absurd digit (by decide)

/-- A numeral can stand inside a line. -/
theorem inline_toString {n : Int} : ∀ c ∈ (toString n).toList, Inline c := by
  intro c member
  cases n with
  | ofNat n => exact inline_of_isDigit ((plainNumeral_toString n).digits c member)
  | negSucc n =>
    rw [toList_toString_neg] at member
    rcases List.mem_cons.mp member with rfl | digit
    · exact ⟨by decide, by decide⟩
    · exact inline_of_isDigit ((plainNumeral_toString (n + 1)).digits c digit)

theorem toNat_byte {c : Char} (ascii : c.toNat < 128) : (UInt8.ofNat c.toNat).toNat = c.toNat := by
  rw [UInt8.toNat_ofNat']
  exact Nat.mod_eq_of_lt (by omega)

theorem byte_lt {text : List Char} (ascii : ∀ c ∈ text, c.toNat < 128) :
    ∀ byte ∈ text.map (fun c => UInt8.ofNat c.toNat), byte < 128 := by
  intro byte member
  obtain ⟨c, among, rfl⟩ := List.mem_map.mp member
  rw [UInt8.lt_iff_toNat_lt, toNat_byte (ascii c among)]
  exact ascii c among

/-- ASCII characters are found again from their bytes. -/
theorem map_bytes {text : List Char} (ascii : ∀ c ∈ text, c.toNat < 128) :
    (text.map fun c => UInt8.ofNat c.toNat).map (fun byte => Char.ofNat byte.toNat) = text := by
  induction text with
  | nil => rfl
  | cons c rest ih =>
    rw [List.forall_mem_cons] at ascii
    rw [List.map_cons, List.map_cons, toNat_byte ascii.1, Char.ofNat_toNat, ih ascii.2]

theorem isTerminator_of_byte {byte : UInt8} (ends : byte = 13 ∨ byte = 10) :
    Reply.isTerminator (Char.ofNat byte.toNat) = true := by
  rcases ends with rfl | rfl <;> decide

/-- A line is read as its text, whatever line ends come last. -/
theorem Reply.ofLine_text {text : List Char} {terminator : List UInt8} (inside : ∀ c ∈ text, Inline c)
    (ends : ∀ byte ∈ terminator, byte = 13 ∨ byte = 10) :
    Reply.ofLine ((text.map fun c => UInt8.ofNat c.toNat) ++ terminator) = .ok (String.ofList text) := by
  have ascii : ∀ c ∈ text, c.toNat < 128 := fun c member => (inside c member).1
  have narrow : ((text.map fun c => UInt8.ofNat c.toNat) ++ terminator).all (· < 128) = true := by
    refine List.all_eq_true.mpr fun byte member => decide_eq_true ?_
    rcases List.mem_append.mp member with inText | last
    · exact byte_lt ascii byte inText
    · rcases ends byte last with rfl | rfl <;> decide
  have stripped : (text.reverse.dropWhile isTerminator).reverse = text := by
    cases backwards : text.reverse with
    | nil =>
      rw [List.reverse_eq_nil_iff.mp backwards]
      rfl
    | cons c rest =>
      have member : c ∈ text := List.mem_reverse.mp (by rw [backwards]; exact List.mem_cons_self)
      rw [List.dropWhile_cons_of_neg (by rw [(inside c member).2]; exact Bool.false_ne_true), ← backwards,
        List.reverse_reverse]
  have last : ∀ c ∈ (terminator.map fun byte => Char.ofNat byte.toNat).reverse,
      isTerminator c = true := by
    intro c member
    obtain ⟨byte, among, rfl⟩ := List.mem_map.mp (List.mem_reverse.mp member)
    exact isTerminator_of_byte (ends byte among)
  unfold Reply.ofLine
  rw [if_pos narrow]
  dsimp only
  rw [List.map_append, map_bytes ascii, List.reverse_append, List.dropWhile_append_of_pos last, stripped]

theorem toNat_ofNat_lt {n : Nat} (ascii : n < 128) : (Char.ofNat n).toNat < 128 := by
  have all : ∀ n < 128, (Char.ofNat n).toNat < 128 := by decide
  exact all n ascii

/-- What is left of a line without its line ends is ASCII. -/
theorem Reply.ascii_of_ofLine {line : List UInt8} {reply : String}
    (decoded : Reply.ofLine line = .ok reply) : ∀ c ∈ reply.toList, c.toNat < 128 := by
  unfold Reply.ofLine at decoded
  split at decoded
  · rename_i narrow
    cases Except.ok.inj decoded
    intro c member
    rw [String.toList_ofList, List.mem_reverse] at member
    have inside := List.mem_reverse.mp (List.dropWhile_subset _ member)
    obtain ⟨byte, among, rfl⟩ := List.mem_map.mp inside
    have below : byte.toNat < 128 := of_decide_eq_true (List.all_eq_true.mp narrow byte among)
    exact toNat_ofNat_lt below
  · cases decoded

theorem Reply.length_of_isAcknowledgement {reply : String} (word : isAcknowledgement reply = true) :
    reply.toList.length ≤ 2 := by
  unfold isAcknowledgement at word
  rcases Bool.or_eq_true_iff.mp word with empty | ok
  · rw [of_decide_eq_true empty]
    decide
  · rw [of_decide_eq_true ok]
    decide

/-- A reply is taken for data when it is longer than the tag, fits a line and repeats the tag. -/
theorem Reply.checkData_ok {command reply : String} (long : tagLength < reply.toList.length)
    (short : reply.toList.length ≤ longest) (echoed : (tag command).toList <+: reply.toList) :
    checkData command reply = .ok reply := by
  have word : isAcknowledgement reply = false := by
    refine Bool.eq_false_iff.mpr fun word => ?_
    have two := length_of_isAcknowledgement word
    unfold tagLength at long
    omega
  have beyond : decide (reply.toList.length ≤ tagLength) = false :=
    decide_eq_false (Nat.not_le.mpr long)
  have repeated : (tag command).toList.isPrefixOf reply.toList = true :=
    List.isPrefixOf_iff_prefix.mpr echoed
  unfold checkData
  dsimp only
  rw [word, beyond, if_neg (by simp), if_neg (Nat.not_lt.mpr short), repeated]
  rfl

/-- A command of four characters, repeated with a numeral after it, is answered with the integer. -/
theorem Reply.answers_numeral {command : String} {n : Int} {terminator : List UInt8}
    (tag : command.toList.length = tagLength) (inside : ∀ c ∈ command.toList, Inline c)
    (short : (toString n).toList.length ≤ 28) (ends : ∀ byte ∈ terminator, byte = 13 ∨ byte = 10) :
    Answers command
      (((command.toList ++ (toString n).toList).map fun c => UInt8.ofNat c.toNat) ++ terminator) n := by
  have whole : ∀ c ∈ command.toList ++ (toString n).toList, Inline c := by
    intro c member
    rcases List.mem_append.mp member with inCommand | inNumeral
    · exact inside c inCommand
    · exact inline_toString c inNumeral
  have read := integer?_toString n
  have nonempty : (toString n).toList ≠ [] := by
    intro none
    rw [String.toList_eq_nil_iff.mp none] at read
    cases read
  have positive := List.length_pos_iff.mpr nonempty
  have repeated : Reply.tag command = command := by
    rw [Reply.tag, List.take_of_length_le (Nat.le_of_eq tag), String.ofList_toList]
  have length : (command.toList ++ (toString n).toList).length =
      tagLength + (toString n).toList.length := by
    rw [List.length_append, tag]
  refine ⟨String.ofList (command.toList ++ (toString n).toList), ofLine_text whole ends, ?_, ?_⟩
  · apply checkData_ok
    · rw [String.toList_ofList, length]
      omega
    · rw [String.toList_ofList, length, tagLength, longest]
      omega
    · rw [repeated, String.toList_ofList]
      exact List.prefix_append _ _
  · have follows : value (String.ofList (command.toList ++ (toString n).toList)) = toString n := by
      rw [value, String.toList_ofList, ← tag, List.drop_left, String.ofList_toList]
    unfold integer
    rw [follows, read]

namespace Exchange

/-- A command is framed as its bytes with a line feed. -/
theorem of_frame {command : String} {line : List UInt8} (framed : frame command = .ok line) :
    (∀ c ∈ command.toList, c.toNat < 128) ∧
      line = (command.toList.map fun c => UInt8.ofNat c.toNat) ++ [10] := by
  unfold frame at framed
  dsimp only at framed
  split at framed
  · rename_i narrow
    have same := Except.ok.inj framed
    rw [List.map_append] at same
    refine ⟨fun c member => ?_, same.symm⟩
    exact of_decide_eq_true (List.all_eq_true.mp narrow c (List.mem_append_left _ member))
  · cases framed

theorem frame_inj {first second : String} {line : List UInt8} (framed : frame first = .ok line)
    (same : frame second = .ok line) : first = second := by
  obtain ⟨ascii, rfl⟩ := of_frame framed
  obtain ⟨narrow, lines⟩ := of_frame same
  have texts := congrArg (List.map fun byte => Char.ofNat byte.toNat) (List.append_cancel_right lines)
  rw [map_bytes ascii, map_bytes narrow] at texts
  exact String.toList_inj.mp texts

theorem frame_of_ascii {command : String} (ascii : ∀ c ∈ command.toList, c.toNat < 128) :
    ∃ line, frame command = .ok line := by
  have all : (command.toList ++ ['\n']).all (fun c => decide (c.toNat < 128)) = true := by
    refine List.all_eq_true.mpr fun c member => decide_eq_true ?_
    rcases List.mem_append.mp member with inText | feed
    · exact ascii c inText
    · cases List.mem_singleton.mp feed
      decide
  exact ⟨_, if_pos all⟩

end Exchange

section
variable {channel : Int} (known : channel ∈ channels) (register : Register)

include known in
theorem Command.inline_read : ∀ c ∈ (Command.read channel register).text.toList, Inline c := by
  refine inline_of_all ?_
  revert channel
  cases register <;> decide

include known in
theorem Command.inline_set_front : ∀ c ∈ (s!":s{channel}{register.letter}").toList, Inline c := by
  refine inline_of_all ?_
  revert channel
  cases register <;> decide

include known in
/-- Every reading of a channel can be sent. -/
theorem Exchange.frame_read : ∃ line, frame (Command.read channel register).text = .ok line :=
  frame_of_ascii fun c member => (Command.inline_read known register c member).1

include known in
/-- Every setting of a channel to a natural number can be sent. -/
theorem Exchange.frame_set (n : Nat) :
    ∃ line, frame (Command.set channel register n).text = .ok line := by
  refine frame_of_ascii fun c member => ?_
  have parts : (Command.set channel register n).text.toList =
      (s!":s{channel}{register.letter}").toList ++ (toString n).toList := String.toList_append
  rw [parts] at member
  rcases List.mem_append.mp member with inFront | inNumeral
  · exact (Command.inline_set_front known register c inFront).1
  · exact (inline_of_isDigit ((plainNumeral_toString n).digits c inNumeral)).1

end

end SignalGenerator
