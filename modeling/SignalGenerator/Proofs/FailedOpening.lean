import SignalGenerator.Proofs.Reopening
import SignalGenerator.Proofs.Shutdown

/-!
What a failed opening leaves behind. When a port has been opened and no generator is identified on it, the
port is closed again after an ordinary fault. What cuts in from outside passes by, and then the port stays
open although nobody holds it.
-/

namespace SignalGenerator

/-- A fault of the serial port is an ordinary one. -/
theorem Fault.not_serial {fault : Fault} (interrupt : fault.isOf .ordinary = false) :
    fault.isOf .serial = false := by
  unfold Fault.isOf at interrupt ⊢
  generalize fault.kind = kind at interrupt ⊢
  cases kind <;> simp_all [Fault.Kind.family]

/-- Where something cuts in from outside, the program ends at once with a fault that is not ordinary. -/
inductive Program.Interruptible {α : Type} : Program α → Prop
  | result {value} : Interruptible (.result value)
  | fail {fault} : Interruptible (.fail fault)
  | ask {request next} :
      (∀ answer, Step.uninterrupted ⟨request, answer⟩ = false →
        ∃ fault, next answer = .fail fault ∧ fault.isOf .ordinary = false) →
      (∀ answer, (next answer).Interruptible) → Interruptible (.ask request next)

namespace Program.Interruptible

variable {α β : Type} {program : Program α}

theorem runs (interruptible : program.Interruptible) {steps : List Step} {ending : Outcome α}
    (run : program.Runs steps ending) (cut : ∃ step ∈ steps, step.uninterrupted = false) :
    ∃ fault, ending = .fault fault ∧ fault.isOf .ordinary = false := by
  induction interruptible generalizing steps with
  | result | fail =>
    cases run
    obtain ⟨_, member, _⟩ := cut
    cases member
  | ask stops _ ih =>
    obtain ⟨answer, rest, rfl, continued⟩ := run.of_ask
    obtain ⟨step, member, interrupted⟩ := cut
    rcases List.mem_cons.mp member with rfl | later
    · obtain ⟨fault, ended, interrupt⟩ := stops answer interrupted
      rw [ended] at continued
      exact ⟨fault, continued.of_fail.2, interrupt⟩
    · exact ih answer continued ⟨step, later, interrupted⟩

/-- Nothing cuts in where a port is not waited for. -/
theorem ask_calm {request : Request} {next : request.Answer → Program α}
    (calm : ∀ answer, Step.uninterrupted ⟨request, answer⟩ = true)
    (rest : ∀ answer, (next answer).Interruptible) : (Program.ask request next).Interruptible := by
  refine .ask (fun answer cut => ?_) rest
  rw [calm answer] at cut
  cases cut

theorem bind {next : α → Program β} (first : program.Interruptible)
    (rest : ∀ value, (next value).Interruptible) : (program.bind next).Interruptible := by
  induction first with
  | result => exact rest _
  | fail => exact .fail
  | ask stops _ ih =>
    refine .ask (fun answer cut => ?_) ih
    obtain ⟨fault, ended, interrupt⟩ := stops answer cut
    exact ⟨fault, by rw [ended]; rfl, interrupt⟩

theorem attempt_bind {next : Except Fault α → Program β} (first : program.Interruptible)
    (rest : ∀ outcome, (next outcome).Interruptible)
    (passes : ∀ fault, fault.isOf .ordinary = false → next (.error fault) = .fail fault) :
    (program.attempt.bind next).Interruptible := by
  induction first with
  | result | fail => exact rest _
  | ask stops _ ih =>
    refine .ask (fun answer cut => ?_) ih
    obtain ⟨fault, ended, interrupt⟩ := stops answer cut
    refine ⟨fault, ?_, interrupt⟩
    dsimp only
    rw [ended]
    exact passes fault interrupt

theorem ofExcept {answer : Except Fault α} : (Program.ofExcept answer).Interruptible := by
  cases answer with
  | ok value => exact .result
  | error fault => exact .fail

end Program.Interruptible

open Program (Interruptible)

namespace Exchange

variable {port : Port} {command : String}

/-- An interrupt is passed on as it is. -/
theorem explain_interrupt {α : Type} {cause : String → Fault} {fault : Fault}
    (interrupt : fault.isOf .ordinary = false) :
    explain cause (.error fault : Except Fault α) = .error fault := by
  have own : (if fault.isOf .serial = true then cause fault.message else fault) = fault := by
    rw [Fault.not_serial interrupt, if_neg Bool.false_ne_true]
  exact congrArg Except.error own

theorem send_interruptible (framed : ∃ line, frame command = .ok line) :
    (send port command).Interruptible := by
  obtain ⟨line, framed⟩ := framed
  rw [send_eq framed]
  refine .ask_calm (fun _ => rfl) fun _ => .ask (fun answer cut => ?_) fun answer => .bind .ofExcept ?_
  · cases answer with
    | ok written => cases cut
    | error fault => exact ⟨fault, by rw [explain_interrupt cut]; rfl, cut⟩
  · intro written
    split
    · exact .fail
    · exact .result

theorem receive_interruptible : (receive port timeout).Interruptible := by
  rw [receive_eq]
  refine .ask (fun answer cut => ?_) fun answer => ?_
  · cases answer with
    | ok line => cases cut
    | error fault => exact ⟨fault, by dsimp only; rw [explain_interrupt cut]; rfl, cut⟩
  · cases answer with
    | error fault => exact .ofExcept
    | ok line =>
      refine .ask_calm (fun _ => rfl) fun _ => ?_
      split
      · exact .bind .ofExcept fun _ => .fail
      · exact .ofExcept

end Exchange

theorem Identity.identify_interruptible {port : Port} : (identify port).Interruptible :=
  ((Exchange.send_interruptible ⟨_, rfl⟩).bind fun _ =>
    Exchange.receive_interruptible.bind fun _ => .ofExcept).bind fun _ => .ofExcept

theorem Tries.fault_of_no_result {name : Given String} {calls : List PortCall}
    {ending : Outcome Generator} (tries : Tries name calls ending)
    (failed : ∀ generator, ending ≠ .result generator) : ∃ fault, ending = .fault fault := by
  cases tries with
  | refused | interrupted | released => exact ⟨_, rfl⟩
  | found => exact absurd rfl (failed _)

namespace Generator

variable {name : Given String} {baudRate : Given Int} {steps : List Step}
  {ending : Outcome Generator}

theorem openOn_interruptible (name : Given String) (baudRate : Given Int) :
    (openOn name baudRate).Interruptible := by
  refine .ask_calm (fun _ => rfl) fun _ => .ask (fun answer cut => ?_) fun answer => ?_
  · cases answer with
    | ok port => cases cut
    | error fault => exact ⟨fault, rfl, cut⟩
  · cases answer with
    | error fault => exact .fail
    | ok port =>
      refine Identity.identify_interruptible.attempt_bind (fun outcome => ?_) fun fault interrupt => ?_
      · cases outcome with
        | ok identity => exact .ask_calm (fun _ => rfl) fun _ => .result
        | error fault =>
          dsimp only
          split
          · exact .ask_calm (fun _ => rfl) fun _ => .fail
          · exact .fail
      · dsimp only
        rw [interrupt, if_neg Bool.false_ne_true]

/-- The fault of a failed opening is ordinary unless something has cut in. -/
theorem openOn_ordinary_iff {fault : Fault} (run : (openOn name baudRate).Runs steps (.fault fault)) :
    fault.isOf .ordinary = true ↔ ∀ step ∈ steps, step.uninterrupted = true := by
  refine ⟨fun ordinary step member => ?_, (openOn_ordinary name baudRate).runs run⟩
  by_contra cut
  obtain ⟨_, same, interrupt⟩ := (openOn_interruptible name baudRate).runs run
    ⟨step, member, Bool.eq_false_iff.mpr cut⟩
  cases same
  cases interrupt.symm.trans ordinary

/-- An opening that gives no generator fails, and it leaves the port open that it has opened exactly if
something has cut in while the generator was asked for its model. -/
theorem failed_opening_closes_iff (run : (openOn name baudRate).Runs steps ending)
    (failed : ∀ generator, ending ≠ .result generator) :
    (∃ fault, ending = .fault fault) ∧
      (∀ port, .opened name (.ok port) ∈ portCalls steps →
        (openPorts (portCalls steps) = [] ↔ ∀ step ∈ steps, step.uninterrupted = true) ∧
          (openPorts (portCalls steps) ≠ [] → openPorts (portCalls steps) = [port])) ∧
      ((∀ port, .opened name (.ok port) ∉ portCalls steps) → openPorts (portCalls steps) = []) := by
  have tries := openOn_tries run
  obtain ⟨fault, rfl⟩ := tries.fault_of_no_result failed
  have calm := openOn_ordinary_iff run
  generalize portCalls steps = calls at tries ⊢
  refine ⟨⟨fault, rfl⟩, ?_, ?_⟩
  · intro port opened
    by_cases ordinary : fault.isOf .ordinary = true
    · have none := tries.openPorts_fault ordinary
      exact ⟨⟨fun _ => calm.mp ordinary, fun _ => none⟩, fun some => absurd none some⟩
    · cases tries with
      | refused => cases List.mem_singleton.mp opened
      | released own => exact absurd own ordinary
      | @interrupted target asked _ _ _ reaches =>
        have left : openPorts (.opened name (.ok target) :: asked) = [target] :=
          openPorts_opened reaches
        have same : port = target := by
          rcases List.mem_cons.mp opened with same | later
          · cases same
            rfl
          · cases reaches _ later
        rw [left, same]
        exact ⟨⟨nofun, fun uninterrupted => absurd (calm.mpr uninterrupted) ordinary⟩, fun _ => rfl⟩
  · intro none
    cases tries with
    | refused => rfl
    | interrupted => exact absurd List.mem_cons_self (none _)
    | released => exact absurd List.mem_cons_self (none _)

/-- A generator of another family answers. -/
theorem failed_opening_closes_iff_foreign :
    let program := openOn (.value "/dev/ttyUSB0") (.value 57600)
    let steps := program.stepsOn (Bench.offering [":r0c3325A000\n"] [])
    program.Runs steps (.fault (.modelForeign "3325A000")) ∧
      (∀ step ∈ steps, step.uninterrupted = true) ∧
      .opened (.value "/dev/ttyUSB0") (.ok ⟨0, "/dev/ttyUSB0"⟩) ∈ portCalls steps ∧
      openPorts (portCalls steps) = [] := by
  intro program steps
  have run := Program.runs_runOn program (Bench.offering [":r0c3325A000\n"] [])
  have ended : (program.runOn (Bench.offering [":r0c3325A000\n"] [])).1 =
      .fault (.modelForeign "3325A000") := by
    decide +kernel
  rw [ended] at run
  have calm : ∀ step ∈ steps, step.uninterrupted = true := by decide +kernel
  have opened : .opened (.value "/dev/ttyUSB0") (.ok ⟨0, "/dev/ttyUSB0"⟩) ∈ portCalls steps := by
    decide +kernel
  obtain ⟨_, closes, _⟩ := failed_opening_closes_iff run fun _ => nofun
  exact ⟨run, calm, opened, (closes _ opened).1.mpr calm⟩

/-- The user interrupts while the question for the model is written. -/
theorem interrupted_opening_leaks :
    let interrupt : Fault := .external .interrupt ""
    let program := openOn (.value "/dev/ttyUSB0") (.value 57600)
    let bench := Bench.offering [] [.fault interrupt]
    program.Runs (program.stepsOn bench) (.fault interrupt) ∧
      openPorts (portCalls (program.stepsOn bench)) = [⟨0, "/dev/ttyUSB0"⟩] ∧
      (program.runOn bench).2.ports.map (·.closed) = #[false] := by
  intro interrupt program bench
  have run := Program.runs_runOn program bench
  have ended : (program.runOn bench).1 = .fault interrupt := by decide +kernel
  rw [ended] at run
  exact ⟨run, by decide +kernel, by decide +kernel⟩

end Generator

end SignalGenerator
