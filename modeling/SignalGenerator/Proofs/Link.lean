import SignalGenerator.Proofs.Turns

/-!
The line between a program and a device that answers in order. An answer that nobody waited for stays on
it and is what is read next. Main statements: transactions that are made in turn never make up for an
answer that was left behind, they leave no more behind than calls were missed, and they read the answer to
their own command only where nothing was left behind.
-/

namespace SignalGenerator

namespace PortCall

/-- A call after which an answer may be left behind: not all of a line was reported as written, or no line
was read. -/
def missed : PortCall → Bool
  | .wrote _ line report => decide (report ≠ .ok (line.length : Int))
  | .read _ (.ok line) => line.isEmpty
  | .read _ (.error _) => true
  | _ => false

end PortCall

/-- A line to a device: what was written to it, and the numbers of the lines whose answers were not read
yet, in the order in which the answers come. -/
structure Link where
  sent : List (List UInt8)
  queue : List Nat
  queued : ∀ number ∈ queue, number < sent.length

/-- A reply that was read: the number of the line written last before it, and the number of the line that
it answers. -/
structure Receipt where
  asked : Nat
  answered : Nat

namespace Link

/-- Writes a line that reaches the device. -/
def reach (link : Link) (line : List UInt8) : Link where
  sent := link.sent ++ [line]
  queue := link.queue ++ [link.sent.length]
  queued := by
    intro number member
    rw [List.length_append, List.length_singleton]
    rcases List.mem_append.mp member with old | new
    · exact Nat.lt_succ_of_lt (link.queued number old)
    · rw [List.mem_singleton.mp new]
      exact Nat.lt_succ_self _

/-- Writes a line that does not reach the device. -/
def lose (link : Link) (line : List UInt8) : Link where
  sent := link.sent ++ [line]
  queue := link.queue
  queued := by
    intro number member
    rw [List.length_append, List.length_singleton]
    exact Nat.lt_succ_of_lt (link.queued number member)

/-- Reads the oldest answer. -/
def hear (link : Link) : Link where
  sent := link.sent
  queue := link.queue.tail
  queued := fun number member => link.queued number (List.mem_of_mem_tail member)

/-- What the calls on a port do to its link, and the replies that they read. The device answers each line
that reaches it. A line that was reported as not written may have reached it all the same, and an answer may
come after the reading that waited for it. -/
inductive Carries (answer : Nat → List UInt8) : Link → List PortCall → List Receipt → Link → Prop
  | done {link} : Carries answer link [] [] link
  | reached {link port line report calls receipts last} :
      Carries answer (link.reach line) calls receipts last →
      Carries answer link (.wrote port line report :: calls) receipts last
  | lost {link port line report calls receipts last} :
      (PortCall.wrote port line report).missed = true →
      Carries answer (link.lose line) calls receipts last →
      Carries answer link (.wrote port line report :: calls) receipts last
  | late {link port reading calls receipts last} :
      (PortCall.read port reading).missed = true → Carries answer link calls receipts last →
      Carries answer link (.read port reading :: calls) receipts last
  | arrived {link port number rest calls receipts last} : link.queue = number :: rest →
      Carries answer link.hear calls receipts last →
      Carries answer link (.read port (.ok (answer number)) :: calls)
        (⟨link.sent.length - 1, number⟩ :: receipts) last

theorem Carries.split {answer : Nat → List UInt8} {link last : Link} {first rest : List PortCall}
    {receipts : List Receipt} (carried : link.Carries answer (first ++ rest) receipts last) :
    ∃ middle early later, receipts = early ++ later ∧ link.Carries answer first early middle ∧
      middle.Carries answer rest later last := by
  induction first generalizing link receipts with
  | nil => exact ⟨link, [], receipts, rfl, .done, carried⟩
  | cons call first ih =>
    cases carried with
    | reached onward =>
      obtain ⟨middle, early, later, rfl, before, after⟩ := ih onward
      exact ⟨middle, early, later, rfl, .reached before, after⟩
    | lost missed onward =>
      obtain ⟨middle, early, later, rfl, before, after⟩ := ih onward
      exact ⟨middle, early, later, rfl, .lost missed before, after⟩
    | late missed onward =>
      obtain ⟨middle, early, later, rfl, before, after⟩ := ih onward
      exact ⟨middle, early, later, rfl, .late missed before, after⟩
    | arrived oldest onward =>
      obtain ⟨middle, early, later, rfl, before, after⟩ := ih onward
      exact ⟨middle, _ :: early, later, rfl, .arrived oldest before, after⟩

/-- A line that was reported as written in full has reached the device. -/
theorem Carries.of_whole {answer : Nat → List UInt8} {link last : Link} {port : Port}
    {line : List UInt8} {calls : List PortCall} {receipts : List Receipt}
    (carried : link.Carries answer (.wrote port line (.ok line.length) :: calls) receipts last) :
    (link.reach line).Carries answer calls receipts last := by
  cases carried with
  | reached onward => exact onward
  | lost missed => exact absurd rfl (of_decide_eq_true missed)

/-- What one transaction makes of a link. It reads the oldest answer, its own one or not; without a reply
it is not answered, and a call was missed. -/
inductive Round (answer : Nat → List UInt8) (link : Link) (transaction : Transaction) :
    Bool → List Receipt → Nat → Link → Prop
  | replied {line number rest missed last complete} : Exchange.frame transaction.command = .ok line →
      link.queue ++ [link.sent.length] = number :: rest → last.sent = link.sent ++ [line] →
      last.queue = rest → (complete = true → transaction.Accepts (answer number)) →
      Round answer link transaction complete [⟨link.sent.length, number⟩] missed last
  | silent {line missed last} : Exchange.frame transaction.command = .ok line →
      last.sent = link.sent ++ [line] →
      (last.queue = link.queue ∨ last.queue = link.queue ++ [link.sent.length]) → 0 < missed →
      Round answer link transaction false [] missed last

/-- Rounds of transactions, up to the first one that is not answered. -/
inductive Rounds (answer : Nat → List UInt8) (allowed : Transaction → Prop) :
    Link → Bool → List Receipt → Nat → Link → Prop
  | done {link} : Rounds answer allowed link true [] 0 link
  | stopped {link transaction receipts missed last} : allowed transaction →
      link.Round answer transaction false receipts missed last →
      Rounds answer allowed link false receipts missed last
  | next {link transaction receipts missed middle complete later more last} : allowed transaction →
      link.Round answer transaction true receipts missed middle →
      Rounds answer allowed middle complete later more last →
      Rounds answer allowed link complete (receipts ++ later) (missed + more) last

end Link

section
variable {answer : Nat → List UInt8} {allowed : Transaction → Prop} {port : Port}
  {transaction : Transaction} {calls : List PortCall} {complete : Bool} {link last : Link}
  {receipts : List Receipt}

/-- A step of a conversation: the calls of one transaction are one round. -/
theorem Transaction.Makes.round {accepted : Option (List UInt8)}
    (made : transaction.Makes port calls accepted) (carried : link.Carries answer calls receipts last) :
    link.Round answer transaction accepted.isSome receipts (calls.countP PortCall.missed) last := by
  have own (line : List UInt8) : (link.reach line).sent.length - 1 = link.sent.length := by
    rw [Link.reach, List.length_append, List.length_singleton, Nat.add_sub_cancel]
  cases made with
  | @unwritten line report framed short =>
    have missed : (PortCall.wrote port line report).missed = true := decide_eq_true short
    have counted : 0 < [PortCall.wrote port line report].countP PortCall.missed := by
      rw [List.countP_singleton, if_pos missed]
      exact Nat.one_pos
    cases carried with
    | reached onward =>
      cases onward
      exact .silent framed rfl (Or.inr rfl) counted
    | lost _ onward =>
      cases onward
      exact .silent framed rfl (Or.inl rfl) counted
  | @refused line reading framed refused =>
    cases carried.of_whole with
    | late missed onward =>
      cases onward
      refine .silent framed rfl (Or.inr rfl) ?_
      exact List.countP_pos_iff.mpr ⟨_, List.mem_cons_of_mem _ (List.mem_singleton_self _), missed⟩
    | arrived oldest onward =>
      cases onward
      rw [own]
      refine .replied framed oldest rfl ?_ nofun
      exact congrArg List.tail oldest
  | @answered line reply framed accepts =>
    cases carried.of_whole with
    | late missed onward => exact absurd (List.isEmpty_iff.mp missed) accepts.1
    | arrived oldest onward =>
      cases onward
      rw [own]
      exact .replied framed oldest rfl (congrArg List.tail oldest) fun _ => accepts

/-- A run of a conversation: calls in turn are rounds, one after the other. -/
theorem InTurn.rounds (turns : InTurn port allowed calls complete)
    (carried : link.Carries answer calls receipts last) :
    link.Rounds answer allowed complete receipts (calls.countP PortCall.missed) last := by
  induction turns generalizing link receipts with
  | silent =>
    cases carried
    exact .done
  | stopped fits made => exact .stopped fits (made.round carried)
  | next fits made _ ih =>
    obtain ⟨middle, early, later, rfl, before, after⟩ := carried.split
    rw [List.countP_append]
    exact .next fits (made.round before) (ih after)

end

namespace Link

variable {answer : Nat → List UInt8} {allowed : Transaction → Prop} {transaction : Transaction}
  {complete : Bool} {link last : Link} {receipts : List Receipt} {missed : Nat}

theorem Round.sent (round : link.Round answer transaction complete receipts missed last) :
    ∃ line, Exchange.frame transaction.command = .ok line ∧ last.sent = link.sent ++ [line] := by
  cases round with
  | replied framed _ sent => exact ⟨_, framed, sent⟩
  | silent framed sent => exact ⟨_, framed, sent⟩

theorem Round.begins (round : link.Round answer transaction complete receipts missed last) :
    link.sent <+: last.sent := by
  obtain ⟨line, _, sent⟩ := round.sent
  exact sent ▸ List.prefix_append _ _

theorem Round.length_of_replied {number : Nat} {rest : List Nat}
    (oldest : link.queue ++ [link.sent.length] = number :: rest) :
    rest.length = link.queue.length := by
  have lengths := congrArg List.length oldest
  rw [List.length_append, List.length_singleton, List.length_cons] at lengths
  exact (Nat.succ.inj lengths).symm

/-- A round that is answered leaves as many answers behind as there were. -/
theorem Round.length_of_answered
    (round : link.Round answer transaction true receipts missed last) :
    last.queue.length = link.queue.length := by
  cases round with
  | replied _ oldest _ queue _ => rw [queue, length_of_replied oldest]

/-- No round makes up for an answer that was left behind, and one more is only left behind by a call that
is missed. -/
theorem Round.length_bounds
    (round : link.Round answer transaction complete receipts missed last) :
    link.queue.length ≤ last.queue.length ∧
      last.queue.length ≤ link.queue.length + missed := by
  cases round with
  | replied _ oldest _ queue _ =>
    rw [queue, length_of_replied oldest]
    exact ⟨Nat.le_refl _, Nat.le_add_right _ _⟩
  | silent _ _ queue counted =>
    rcases queue with same | longer
    · rw [same]
      exact ⟨Nat.le_refl _, Nat.le_add_right _ _⟩
    · rw [longer, List.length_append, List.length_singleton]
      exact ⟨Nat.le_succ _, Nat.add_le_add_left counted _⟩

/-- The oldest answer is the one that was asked for last only when it is the only one. -/
theorem Round.receipt (round : link.Round answer transaction complete receipts missed last) :
    ∀ receipt ∈ receipts, receipt.answered ≤ receipt.asked ∧
      (receipt.answered = receipt.asked ↔ link.queue = []) := by
  intro receipt member
  cases round with
  | @replied _ number rest _ _ _ _ oldest =>
    rw [List.mem_singleton] at member
    subst member
    cases waiting : link.queue with
    | nil =>
      rw [waiting, List.nil_append] at oldest
      obtain ⟨same, _⟩ := List.cons.inj oldest
      exact ⟨Nat.le_of_eq same.symm, iff_of_true same.symm rfl⟩
    | cons first others =>
      rw [waiting, List.cons_append] at oldest
      obtain ⟨rfl, _⟩ := List.cons.inj oldest
      have before : first < link.sent.length := link.queued first (waiting ▸ List.mem_cons_self)
      exact ⟨Nat.le_of_lt before, iff_of_false (Nat.ne_of_lt before) nofun⟩
  | silent => cases member

namespace Rounds

theorem begins (rounds : link.Rounds answer allowed complete receipts missed last) :
    link.sent <+: last.sent := by
  induction rounds with
  | done => exact List.prefix_rfl
  | stopped _ round => exact round.begins
  | next _ round _ ih => exact round.begins.trans ih

theorem length_bounds (rounds : link.Rounds answer allowed complete receipts missed last) :
    link.queue.length ≤ last.queue.length ∧
      last.queue.length ≤ link.queue.length + missed := by
  induction rounds with
  | done => exact ⟨Nat.le_refl _, Nat.le_refl _⟩
  | stopped _ round => exact round.length_bounds
  | next _ round _ ih =>
    have same := round.length_of_answered
    omega

theorem receipt (rounds : link.Rounds answer allowed complete receipts missed last) :
    ∀ receipt ∈ receipts, receipt.answered ≤ receipt.asked ∧
      (receipt.answered = receipt.asked ↔ link.queue = []) := by
  induction rounds with
  | done => exact nofun
  | stopped _ round => exact round.receipt
  | next _ round _ ih =>
    -- An answered round leaves an answer behind exactly when there was one before it.
    have same := round.length_of_answered
    intro receipt member
    rcases List.mem_append.mp member with now | later
    · exact round.receipt receipt now
    · have empty := ih receipt later
      rwa [← List.length_eq_zero_iff, same, List.length_eq_zero_iff] at empty

end Rounds

end Link

end SignalGenerator
