import SignalGenerator.Acquisition.Run
import SignalGenerator.Proofs.Ticks

/-!
When polls are made. The schedule is counted from the first reading of the clock: each poll is due one
interval after the one before was due. A turn reads the clock and polls if it has come to the time of the
next poll, and else waits once. So no poll is early and none is left out, however the clock goes.
-/

namespace SignalGenerator.Schedule

/-- What is done after a reading of the clock. -/
inductive Deed
  | wait (answer : Except Fault Unit)
  | poll (steps : List Step) (ending : Outcome (Sampler × Except Fault (List Sample)))

/-- A reading of the clock with what is done after it. -/
structure Turn where
  time : Instant
  deed : Deed

namespace Turn

def steps : Turn → List Step
  | ⟨time, .wait answer⟩ => [⟨.now, .ok time⟩, ⟨.pause waitMicroseconds, answer⟩]
  | ⟨time, .poll steps _⟩ => ⟨.now, .ok time⟩ :: steps

def isPoll : Turn → Bool
  | ⟨_, .wait _⟩ => false
  | ⟨_, .poll ..⟩ => true

/-- The sampler after a turn. -/
def leaves (sampler : Sampler) : Turn → Sampler
  | ⟨_, .poll _ (.result (polled, _))⟩ => polled
  | _ => sampler

/-- The fault that a turn fails with. -/
def fault? : Turn → Option Fault
  | ⟨_, .wait (.error fault)⟩ => some fault
  | ⟨_, .poll _ (.result (_, .error fault))⟩ => some fault
  | _ => none

end Turn

/-- The sampler after some turns. -/
def after (sampler : Sampler) (turns : List Turn) : Sampler := turns.foldl Turn.leaves sampler

/-- How often is polled in some turns. -/
def polls (turns : List Turn) : Nat := turns.countP Turn.isPoll

/-- When the next poll is due, in microseconds, after some turns of a schedule. -/
def dueAfter (delta : Interval) (beginning : Instant) (turns : List Turn) : Int :=
  beginning.microseconds + polls turns * delta.microseconds

/-- A turn keeps to the schedule. It comes before the acquisition is complete, and it polls if its reading
has come to the time of the next poll, and only then. -/
structure Turn.Keeps (sink : Sample → Program Unit) (delta : Interval) (beginning : Instant)
    (sampler : Sampler) (earlier : List Turn) (turn : Turn) : Prop where
  incomplete : (after sampler earlier).completed = false
  due : turn.isPoll = true ↔ dueAfter delta beginning earlier ≤ turn.time.microseconds
  polled : ∀ steps ending, turn.deed = .poll steps ending →
    ((after sampler earlier).poll sink).Runs steps ending

/-- So many microseconds lead to a point in time that the calendar has. -/
def OnCalendar (microseconds : Int) : Prop :=
  0 ≤ microseconds ∧ microseconds < Instant.endOfCalendar

/-- How polling ends after some turns, with the steps that do not make a turn any more. -/
inductive Ends (delta : Interval) (beginning : Instant) (sampler : Sampler) (turns : List Turn) :
    List Step → Outcome (Sampler × Except Fault Unit) → Prop
  | complete : (after sampler turns).completed = true →
      Ends delta beginning sampler turns [] (.result (after sampler turns, .ok ()))
  | failed {turn fault} : turn ∈ turns → turn.fault? = some fault →
      Ends delta beginning sampler turns [] (.result (after sampler turns, .error fault))
  /-- Only so many turns were asked for, or whoever listens does not come to an end. -/
  | unfinished : Ends delta beginning sampler turns [] .unfinished
  | unread {fault} : (after sampler turns).completed = false →
      Ends delta beginning sampler turns [⟨.now, .error fault⟩]
        (.result (after sampler turns, .error fault))
  /-- The poll after one that is due would be beyond the calendar. -/
  | beyond {time} : (after sampler turns).completed = false →
      dueAfter delta beginning turns ≤ (time.microseconds : Int) →
      ¬ OnCalendar (dueAfter delta beginning turns + delta.microseconds) →
      Ends delta beginning sampler turns [⟨.now, .ok time⟩]
        (.result (after sampler turns, .error .dateOutOfRange))

/-- Polling in turns, each of which keeps to the schedule. The turn that fails is the last one. -/
structure Polls (sink : Sample → Program Unit) (delta : Interval) (beginning : Instant)
    (sampler : Sampler) (turns : List Turn) (steps : List Step)
    (ending : Outcome (Sampler × Except Fault Unit)) : Prop where
  keeps : ∀ earlier turn later, turns = earlier ++ turn :: later →
    turn.Keeps sink delta beginning sampler earlier ∧ (turn.fault? ≠ none → later = [])
  ends : ∃ rest, steps = turns.flatMap Turn.steps ++ rest ∧
    Ends delta beginning sampler turns rest ending

section
variable {sink : Sample → Program Unit} {delta : Interval} {beginning due next : Instant}
  {sampler : Sampler} {turn first : Turn} {earlier turns : List Turn} {steps : List Step}
  {ending : Outcome (Sampler × Except Fault Unit)}

theorem polls_cons (first : Turn) (turns : List Turn) :
    polls (first :: turns) = polls turns + if first.isPoll then 1 else 0 := List.countP_cons

/-- The schedule moves on by one interval with a poll, and only then. -/
def Moves (delta : Interval) (due : Instant) (first : Turn) (next : Instant) : Prop :=
  (next.microseconds : Int) = due.microseconds + if first.isPoll then delta.microseconds else 0

theorem Moves.dueAfter_cons (moves : Moves delta due first next) (turns : List Turn) :
    dueAfter delta due (first :: turns) = dueAfter delta next turns := by
  unfold Moves at moves
  rw [dueAfter, dueAfter, polls_cons, moves]
  cases first.isPoll with
  | false => simp
  | true =>
    simp only [if_true, Int.natCast_add, Int.add_mul]
    omega

theorem Turn.Keeps.cons (keeps : turn.Keeps sink delta next (first.leaves sampler) earlier)
    (moves : Moves delta due first next) : turn.Keeps sink delta due sampler (first :: earlier) where
  incomplete := keeps.incomplete
  due := (moves.dueAfter_cons earlier).symm ▸ keeps.due
  polled := keeps.polled

theorem Ends.cons {rest : List Step} (ends : Ends delta next (first.leaves sampler) turns rest ending)
    (moves : Moves delta due first next) : Ends delta due sampler (first :: turns) rest ending := by
  have later := moves.dueAfter_cons turns
  cases ends with
  | complete completed => exact .complete completed
  | failed member fails => exact .failed (List.mem_cons_of_mem _ member) fails
  | unfinished => exact .unfinished
  | unread incomplete => exact .unread incomplete
  | beyond incomplete reached outside =>
    exact .beyond incomplete (later ▸ reached) (later ▸ outside)

/-- One turn, and after it polling from the state that it leaves. -/
theorem Polls.cons (keeps : first.Keeps sink delta due sampler []) (good : first.fault? = none)
    (moves : Moves delta due first next)
    (rest : Polls sink delta next (first.leaves sampler) turns steps ending) :
    Polls sink delta due sampler (first :: turns) (first.steps ++ steps) ending where
  keeps earlier turn later split := by
    cases earlier with
    | nil =>
      obtain ⟨rfl, rfl⟩ := List.cons.inj split
      exact ⟨keeps, fun fails => absurd good fails⟩
    | cons head earlier =>
      obtain ⟨rfl, rfl⟩ := List.cons.inj split
      obtain ⟨kept, last⟩ := rest.keeps earlier turn later rfl
      exact ⟨kept.cons moves, last⟩
  ends := by
    obtain ⟨last, rfl, ends⟩ := rest.ends
    exact ⟨last, (List.append_assoc ..).symm, ends.cons moves⟩

/-- One turn that is the last one. -/
theorem Polls.last (keeps : turn.Keeps sink delta due sampler [])
    (ends : Ends delta due sampler [turn] [] ending) :
    Polls sink delta due sampler [turn] turn.steps ending where
  keeps earlier other later split := by
    rcases List.append_eq_singleton_iff.mp split.symm with ⟨rfl, alone⟩ | ⟨_, none⟩
    · obtain ⟨rfl, rfl⟩ := List.cons.inj alone
      exact ⟨keeps, fun _ => rfl⟩
    · cases none
  ends := ⟨[], by simp, ends⟩

/-- Polling without a turn. -/
theorem Polls.nil (ends : Ends delta due sampler [] steps ending) :
    Polls sink delta due sampler [] steps ending where
  keeps earlier turn later split := absurd split.symm (by simp)
  ends := ⟨steps, rfl, ends⟩

@[simp] theorem dueAfter_nil : dueAfter delta due [] = due.microseconds := by simp [dueAfter, polls]

@[simp] theorem after_nil : after sampler [] = sampler := rfl

section
variable (incomplete : sampler.completed = false)

end

end

end SignalGenerator.Schedule
