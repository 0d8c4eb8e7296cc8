import SignalGenerator.Bench.Calls
import SignalGenerator.Proofs.Reopening

/-!
How often a call is made that may fail. Main statement: it is made until it gives a value or a fault that it is
not repeated for, but at most so many times, with one pause between two calls, and the last outcome is what comes
of it.
-/

namespace SignalGenerator

section

variable {α : Type} {expected : List Fault.Kind}

/-- A value, or a fault that is of none of the kinds to repeat a call for, nor part of one. -/
def Final (expected : List Fault.Kind) : Except Fault α → Prop
  | .ok _ => True
  | .error fault => ∀ kind ∈ expected, kind ∉ fault.kind.family

instance (expected : List Fault.Kind) : (outcome : Except Fault α) → Decidable (Final expected outcome)
  | .ok _ => isTrue trivial
  | .error fault => inferInstanceAs (Decidable (∀ kind ∈ expected, kind ∉ fault.kind.family))

/-- After so many calls no further one is made: these are as many as there may be, or the last of them has come
to a final outcome. -/
def Enough (expected : List Fault.Kind) (limit : Nat) (outcomes : List (Except Fault α)) (calls : Nat) : Prop :=
  0 < calls ∧ (calls = limit ∨ ∃ outcome, outcomes[calls - 1]? = some outcome ∧ Final expected outcome)

/-- The calls that are made where they come to these outcomes: so many as are enough, and no more. -/
def CallsMade (expected : List Fault.Kind) (limit : Nat) (outcomes : List (Except Fault α)) (calls : Nat) :
    Prop :=
  Enough expected limit outcomes calls ∧ ∀ count, Enough expected limit outcomes count → calls ≤ count

theorem RetryPolicy.retries_iff {policy : RetryPolicy} {fault : Fault} :
    policy.retries fault = true ↔ ¬ Final policy.retried (.error fault : Except Fault α) := by
  simp [retries, Final, Fault.isOf]

variable {first : Except Fault α} {rest : List (Except Fault α)} {limit calls : Nat}

theorem enough_one_iff : Enough expected limit (first :: rest) 1 ↔ limit = 1 ∨ Final expected first := by
  simp [Enough, eq_comm]

theorem enough_succ_iff (positive : 0 < calls) :
    Enough expected (limit + 1) (first :: rest) (calls + 1) ↔ Enough expected limit rest calls := by
  obtain ⟨count, rfl⟩ := Nat.exists_eq_add_one.mpr positive
  simp [Enough]

/-- A single call is made if none may follow, or if its outcome is final. -/
theorem callsMade_one_iff : CallsMade expected limit (first :: rest) 1 ↔ limit = 1 ∨ Final expected first :=
  (and_iff_left fun _ enough => enough.1).trans enough_one_iff

/-- Where a call may follow and the outcome is not final, the calls after the first one are counted alone. -/
theorem callsMade_succ_iff (positive : 0 < calls) :
    CallsMade expected (limit + 1) (first :: rest) (calls + 1) ↔
      limit ≠ 0 ∧ ¬ Final expected first ∧ CallsMade expected limit rest calls := by
  constructor
  · rintro ⟨enough, least⟩
    have more : ¬ Enough expected (limit + 1) (first :: rest) 1 := by
      intro one
      have le := least 1 one
      omega
    rw [enough_one_iff, not_or] at more
    refine ⟨by omega, more.2, (enough_succ_iff positive).mp enough, fun count again => ?_⟩
    have le := least (count + 1) ((enough_succ_iff again.1).mpr again)
    omega
  · rintro ⟨further, again, enough, least⟩
    refine ⟨(enough_succ_iff positive).mpr enough, fun count other => ?_⟩
    obtain ⟨before, rfl⟩ := Nat.exists_eq_add_one.mpr other.1
    by_cases none : before = 0
    · subst none
      rcases enough_one_iff.mp other with same | final
      · omega
      · exact absurd final again
    · have le := least before ((enough_succ_iff (Nat.pos_of_ne_zero none)).mp other)
      omega

theorem CallsMade.eq_one (made : CallsMade expected 1 rest calls) : calls = 1 :=
  Nat.le_antisymm (made.2 1 ⟨Nat.one_pos, Or.inl rfl⟩) made.1.1

end

/-- A call under a policy that only limits how often it is made, and gives up with the last fault. -/
def RetryPolicy.atMost (limit : Nat) (expected : List Fault.Kind) : RetryPolicy :=
  ⟨expected, some limit, none, true⟩

namespace PreparedCall

variable {α : Type} {policy : RetryPolicy} {pausing : Pausing} {seconds : Number} {last : α}

/-- What comes of a prepared call under a policy: the last outcome, with the calls counted and the pauses between
them listed. -/
def Gives (policy : RetryPolicy) (seconds : Number) (last : α) (limit : Nat) (prepared : PreparedCall α)
    (result : Except Fault (Except Fault α) × PreparedCall α) : Prop :=
  ∃ calls outcome, CallsMade policy.retried limit (prepared.outcomes ++ [.ok last]) calls ∧
    (prepared.outcomes ++ [.ok last])[calls - 1]? = some outcome ∧
    result = (.ok outcome, ⟨prepared.outcomes.drop calls, prepared.calls + calls,
      prepared.pauses ++ .replicate (calls - 1) seconds⟩)

theorem Gives.once {limit : Nat} {prepared : PreparedCall α} {first : Except Fault α}
    {rest : List (Except Fault α)} (begins : prepared.outcomes ++ [.ok last] = first :: rest)
    (only : limit = 1 ∨ Final policy.retried first) :
    Gives policy seconds last limit prepared
      (.ok first, ⟨prepared.outcomes.drop 1, prepared.calls + 1, prepared.pauses⟩) := by
  refine ⟨1, first, ?_, ?_, ?_⟩
  · rw [begins]
    exact callsMade_one_iff.mpr only
  · rw [begins]
    rfl
  · rw [Nat.sub_self, List.replicate_zero, List.append_nil]

theorem Gives.again {limit : Nat} {fault : Fault} {script : List (Except Fault α)} {count : Nat}
    {pauses : List Number} {result : Except Fault (Except Fault α) × PreparedCall α} (further : limit ≠ 0)
    (retries : policy.retries fault = true)
    (gives : Gives policy seconds last limit ⟨script, count + 1, pauses ++ [seconds]⟩ result) :
    Gives policy seconds last (limit + 1) ⟨.error fault :: script, count, pauses⟩ result := by
  obtain ⟨calls, outcome, made, among, same⟩ := gives
  obtain ⟨more, rfl⟩ := Nat.exists_eq_add_one.mpr made.1.1
  refine ⟨more + 1 + 1, outcome, ?_, among, ?_⟩
  · exact (callsMade_succ_iff more.succ_pos).mpr ⟨further, RetryPolicy.retries_iff.mp retries, made⟩
  · rw [same]
    simp [List.replicate_succ, Nat.add_comm, Nat.add_left_comm]

theorem pause_run (long : length policy pausing = .ok seconds) (prepared : PreparedCall α) :
    (pause policy pausing).run.run prepared =
      (.ok (), { prepared with pauses := prepared.pauses ++ [seconds] }) := by
  rw [pause, long]
  rfl

/-- After a fault, a pause is made and it goes on as from the beginning, or the fault is what comes of it. -/
theorem repeating_error (long : length policy pausing = .ok seconds) (further : Nat) (fault : Fault)
    (script : List (Except Fault α)) (count : Nat) (pauses : List Number) :
    (policy.repeating (call last) (pause policy pausing) (further + 1)).run.run
        ⟨.error fault :: script, count, pauses⟩ =
      if policy.retries fault = true then
        (policy.repeating (call last) (pause policy pausing) further).run.run
          ⟨script, count + 1, pauses ++ [seconds]⟩
      else (.ok (.error fault), ⟨script, count + 1, pauses⟩) := by
  have opened : (policy.repeating (call last) (pause policy pausing) (further + 1)).run.run
      ⟨.error fault :: script, count, pauses⟩ =
      (if policy.retries fault = true then
        (do pause policy pausing; policy.repeating (call last) (pause policy pausing) further)
      else return .error fault : Action α (Except Fault α)).run.run ⟨script, count + 1, pauses⟩ := rfl
  rw [opened]
  split
  · rw [ExceptT.run_bind, StateT.run_bind, pause_run long]
    rfl
  · rfl

/-- Induction on the calls that may follow; the outcomes that are left go along. -/
theorem repeating_gives (long : length policy pausing = .ok seconds) (further : Nat) (prepared : PreparedCall α) :
    Gives policy seconds last (further + 1) prepared
      ((policy.repeating (call last) (pause policy pausing) further).run.run prepared) := by
  obtain ⟨script, count, pauses⟩ := prepared
  induction further generalizing script count pauses with
  | zero => cases script <;> exact .once rfl (Or.inl rfl)
  | succ further ih =>
    rcases script with _ | ⟨fault | value, script⟩
    · exact .once rfl (Or.inr trivial)
    · rw [repeating_error long]
      by_cases retries : policy.retries fault = true
      · rw [if_pos retries]
        exact .again (by omega) retries (ih ..)
      · have final : Final policy.retried (.error fault : Except Fault α) :=
          not_not.mp (RetryPolicy.retries_iff.not.mp retries)
        rw [if_neg retries]
        exact .once rfl (Or.inr final)
    · exact .once rfl (Or.inr trivial)

/-- What comes of a call that is repeated so many times at most. -/
theorem repeated_atMost {expected : List Fault.Kind} {limit : Nat} (positive : 0 < limit)
    (fits : pausing.random = true → pausing.seconds.Fits) (script : List (Except Fault α)) (last : α) :
    ∃ calls outcome, CallsMade expected limit (script ++ [.ok last]) calls ∧
      (script ++ [.ok last])[calls - 1]? = some outcome ∧
      repeated (.atMost limit expected) pausing script last = (outcome.map some,
        ⟨script.drop calls, calls, .replicate (calls - 1) pausing.seconds⟩) := by
  have long : length (.atMost limit expected) pausing = .ok pausing.seconds := by
    cases random : pausing.random with
    | false =>
      rw [length, random]
      rfl
    | true =>
      obtain ⟨x, converted⟩ := fits random
      rw [length, random, converted]
      rfl
  obtain ⟨further, rfl⟩ := Nat.exists_eq_add_one.mpr positive
  obtain ⟨calls, outcome, made, among, same⟩ :=
    @repeating_gives _ (.atMost (further + 1) expected) pausing _ last long further (of script)
  refine ⟨calls, outcome, made, among, ?_⟩
  have concluded : (RetryPolicy.atMost (further + 1) expected).conclude outcome = outcome.map some := by
    rcases outcome with fault | value
    · simp [RetryPolicy.conclude, RetryPolicy.atMost, Except.map]
    · rfl
  have opened : repeated (.atMost (further + 1) expected) pausing script last =
      ((RetryPolicy.repeating _ (call last) (pause _ pausing) further).run.run (of script)).map
        (·.bind (RetryPolicy.atMost (further + 1) expected).conclude) id := rfl
  rw [opened, same, Prod.map_apply, Except.bind, concluded]
  simp [of]

end PreparedCall

namespace RetryPolicy

section

variable {α : Type} {policy : RetryPolicy} {program : Program α} {pause : Program Unit} {between : List Step}
  {outcome : Except Fault α} {steps : List Step}

/-- The calls of a program that are made where they come to these outcomes, with the same steps between two of
them and none after the last one. -/
structure MakesAll (policy : RetryPolicy) (program : Program α) (between : List Step) (limit : Nat)
    (attempts : List (Attempt α)) (steps : List Step) (outcome : Except Fault α) : Prop where
  runs : ∀ attempt ∈ attempts, program.Runs attempt.steps (.ofExcept attempt.outcome)
  made : CallsMade policy.retried limit (attempts.map (·.outcome)) attempts.length
  last : (attempts.map (·.outcome)).getLast? = some outcome
  inTurn : steps = between.intercalate (attempts.map (·.steps))

theorem makesAll_single_iff {limit : Nat} {attempt : Attempt α} :
    policy.MakesAll program between limit [attempt] steps outcome ↔
      (limit = 1 ∨ Final policy.retried attempt.outcome) ∧
      program.Runs attempt.steps (.ofExcept attempt.outcome) ∧ steps = attempt.steps ∧
      outcome = attempt.outcome := by
  constructor
  · rintro ⟨runs, made, last, inTurn⟩
    rw [List.map_singleton, List.intercalate_singleton] at inTurn
    exact ⟨callsMade_one_iff.mp made, runs attempt List.mem_cons_self, inTurn, (Option.some.inj last).symm⟩
  · rintro ⟨only, run, rfl, rfl⟩
    exact ⟨List.forall_mem_singleton.mpr run, callsMade_one_iff.mpr only, rfl, List.intercalate_singleton.symm⟩

theorem makesAll_cons_iff {limit : Nat} {first second : Attempt α} {others : List (Attempt α)} :
    policy.MakesAll program between (limit + 1) (first :: second :: others) steps outcome ↔
      limit ≠ 0 ∧ program.Runs first.steps (.ofExcept first.outcome) ∧
      ¬ Final policy.retried first.outcome ∧ ∃ later, steps = first.steps ++ (between ++ later) ∧
        policy.MakesAll program between limit (second :: others) later outcome := by
  have counted := @callsMade_succ_iff _ policy.retried first.outcome ((second :: others).map (·.outcome)) limit
    (others.length + 1) others.length.succ_pos
  constructor
  · rintro ⟨runs, made, last, rfl⟩
    obtain ⟨further, again, made⟩ := counted.mp made
    obtain ⟨run, runs⟩ := List.forall_mem_cons.mp runs
    refine ⟨further, run, again, _, ?_, runs, made, last, rfl⟩
    simp [List.intercalate_cons_cons]
  · rintro ⟨further, run, again, later, rfl, runs, made, last, rfl⟩
    refine ⟨List.forall_mem_cons.mpr ⟨run, runs⟩, counted.mpr ⟨further, again, made⟩, last, ?_⟩
    simp [List.intercalate_cons_cons]

/-- What the first call comes to decides whether there is a pause and it goes on. -/
theorem repeating_succ (policy : RetryPolicy) (program : Program α) (pause : Program Unit) (further : Nat) :
    policy.repeating program.attempt pause (further + 1) = program.attempt.bind fun given =>
      if Final policy.retried given then .result given
      else pause.bind fun _ => policy.repeating program.attempt pause further := by
  rw [repeating, Program.bind_eq]
  congr 1
  funext given
  rcases given with fault | value
  · by_cases retries : policy.retries fault = true
    · rw [if_neg (retries_iff.mp retries)]
      simp only [retries, if_true, Program.bind_eq]
    · rw [if_pos (not_not.mp (retries_iff.not.mp retries))]
      simp only [retries]
      rfl
  · rw [if_pos (show Final policy.retried (.ok value) from trivial)]
    rfl

/-- Induction on the calls that may follow. A single call is the last one; before any other one there is a
pause. -/
theorem repeating_runs_iff (pauses : ∀ steps, pause.Runs steps (.result ()) ↔ steps = between)
    (further : Nat) : (policy.repeating program.attempt pause further).Runs steps (.result outcome) ↔
      ∃ attempts, policy.MakesAll program between (further + 1) attempts steps outcome := by
  induction further generalizing steps with
  | zero =>
    rw [repeating, Program.runs_attempt_iff]
    constructor
    · intro run
      exact ⟨[⟨steps, outcome⟩], makesAll_single_iff.mpr ⟨Or.inl rfl, run, rfl, rfl⟩⟩
    · rintro ⟨attempts, makes⟩
      obtain ⟨attempt, rfl⟩ := List.length_eq_one_iff.mp makes.made.eq_one
      obtain ⟨_, run, rfl, rfl⟩ := makesAll_single_iff.mp makes
      exact run
  | succ further ih =>
    rw [repeating_succ]
    constructor
    · intro run
      obtain ⟨given, first, rest, rfl, made, continued⟩ := run.of_bind_result
      rw [Program.runs_attempt_iff] at made
      by_cases final : Final policy.retried given
      · rw [if_pos final] at continued
        obtain ⟨rfl, same⟩ := continued.of_result
        cases same
        rw [List.append_nil]
        exact ⟨[⟨first, outcome⟩], makesAll_single_iff.mpr ⟨Or.inr final, made, rfl, rfl⟩⟩
      · rw [if_neg final] at continued
        obtain ⟨_, pausing, later, rfl, paused, again⟩ := continued.of_bind_result
        rw [pauses] at paused
        subst paused
        obtain ⟨_ | ⟨second, others⟩, makes⟩ := ih.mp again
        · cases makes.last
        · exact ⟨⟨first, given⟩ :: second :: others, makesAll_cons_iff.mpr
            ⟨further.succ_ne_zero, made, final, later, rfl, makes⟩⟩
    · rintro ⟨_ | ⟨first, _ | ⟨second, others⟩⟩, makes⟩
      · cases makes.last
      · obtain ⟨only, run, rfl, rfl⟩ := makesAll_single_iff.mp makes
        have final : Final policy.retried first.outcome := only.resolve_left (by omega)
        have ended : (program.attempt.bind fun given => if Final policy.retried given then .result given
            else pause.bind fun _ => policy.repeating program.attempt pause further).Runs (first.steps ++ [])
              (.result first.outcome) := by
          refine (Program.runs_attempt_iff.mpr run).andThen ?_
          rw [if_pos final]
          exact .result
        rwa [List.append_nil] at ended
      · obtain ⟨_, run, again, later, rfl, going⟩ := makesAll_cons_iff.mp makes
        refine (Program.runs_attempt_iff.mpr run).andThen ?_
        rw [if_neg again]
        exact ((pauses _).mpr rfl).andThen (ih.mpr ⟨_, going⟩)

end

/-- What is done between two calls: a message and a pause of random length. -/
def betweenCalls (longest : Number) : Program Unit := do
  Program.info "Retrying after error"
  Program.pauseAtMost longest

/-- The message, and the pause if nothing cuts it short. -/
def stepsBetween (longest : Number) : List Step :=
  [⟨.log .info "Retrying after error", ()⟩, ⟨.pauseAtMost longest, .ok ()⟩]

theorem betweenCalls_runs (longest : Number) (steps : List Step) :
    (betweenCalls longest).Runs steps (.result ()) ↔ steps = stepsBetween longest := by
  constructor
  · intro run
    obtain ⟨_, _, rfl, paused⟩ := run.of_ask
    obtain ⟨answer, _, rfl, ended⟩ := paused.of_ask
    rcases answer with fault | _
    · cases ended.of_fail.2
    · obtain ⟨rfl, _⟩ := ended.of_result
      rfl
  · rintro rfl
    exact .ask (.ask .result)

end RetryPolicy

theorem final_exchanges_iff {α : Type} {fault : Fault} :
    Final [.transport, .protocol] (.error fault : Except Fault α) ↔
      fault.kind ∉ [.transport, .protocol, .unexpectedReply, .shortReply] := by
  have parts (kind : Fault.Kind) : Fault.Kind.transport ∉ kind.family ∧ Fault.Kind.protocol ∉ kind.family ↔
      kind ∉ [.transport, .protocol, .unexpectedReply, .shortReply] := by
    cases kind <;> simp [Fault.Kind.family]
  simpa [Final] using parts fault.kind

namespace RetryPolicy

/-- A call that may be made so many times is made until its outcome is final, whatever outcomes it comes to: in
calls that are prepared, with the pauses between them, and in every execution of a program, where the message and
the pause stand between any two calls and nowhere else. By default the outcome that is not final is a failed
exchange, and a generator is opened in this way. -/
theorem repeats_until_final (α : Type) (expected : List Fault.Kind) {limit : Nat} (positive : 0 < limit) :
    (∀ (script : List (Except Fault α)) (last : α) (pausing : Pausing),
      (pausing.random = true → pausing.seconds.Fits) →
      ∃ calls outcome, CallsMade expected limit (script ++ [.ok last]) calls ∧
        (script ++ [.ok last])[calls - 1]? = some outcome ∧
        PreparedCall.repeated (.atMost limit expected) pausing script last = (outcome.map some,
          ⟨script.drop calls, calls, .replicate (calls - 1) pausing.seconds⟩)) ∧
    (∀ (program : Program α) (longest : Number) (enough : Nat) (steps : List Step) (outcome : Except Fault α),
      ((atMost limit expected).repeating program.attempt (betweenCalls longest)
        ((atMost limit expected).furtherCalls enough)).Runs steps (.result outcome) ↔
      ∃ attempts,
        (atMost limit expected).MakesAll program (stepsBetween longest) limit attempts steps outcome) ∧
    exchanges = .atMost 5 [.transport, .protocol] ∧
    (∀ fault, Final [.transport, .protocol] (.error fault : Except Fault α) ↔
      fault.kind ∉ [.transport, .protocol, .unexpectedReply, .shortReply]) ∧
    ∀ name baudRate, Acquisition.openPersistently name baudRate =
      (exchanges.repeating (Generator.openOn name baudRate).attempt (betweenCalls Acquisition.longestPause)
        (exchanges.furtherCalls 0)).bind Program.ofExcept := by
  refine ⟨fun script last pausing fits => PreparedCall.repeated_atMost positive fits script last, ?_, rfl,
    fun _ => final_exchanges_iff, fun _ _ => rfl⟩
  intro program longest enough steps outcome
  obtain ⟨further, rfl⟩ := Nat.exists_eq_add_one.mpr positive
  exact repeating_runs_iff (betweenCalls_runs longest) further

/-- Silence and a reply that is no number are followed by another call, a value that may not be set is not. -/
theorem repeats_until_final_thrice :
    let script : List (Except Fault Nat) :=
      [.error (.noReply "200"), .error (.notAnInteger "r1f" ":r1fx" "x"), .error .unknownWaveform, .ok 7]
    let seconds : Number := .real (.ofDecimal false 1 (-1))
    0 < 5 ∧ seconds.Fits ∧ CallsMade [.transport, .protocol] 5 (script ++ [.ok 0]) 3 ∧
      PreparedCall.repeated exchanges ⟨seconds, true⟩ script 0 =
        (.error .unknownWaveform, ⟨[.ok 7], 3, [seconds, seconds]⟩) := by
  intro script seconds
  have fits : seconds.Fits := ⟨_, rfl⟩
  have evaluated : PreparedCall.repeated exchanges ⟨seconds, true⟩ script 0 =
      (.error .unknownWaveform, ⟨[.ok 7], 3, [seconds, seconds]⟩) := rfl
  have repeats := repeats_until_final Nat [.transport, .protocol] (by decide : 0 < 5)
  obtain ⟨calls, outcome, made, _, same⟩ := repeats.1 script 0 ⟨seconds, true⟩ fun _ => fits
  have three : 3 = calls := congrArg (fun result => result.2.calls) (evaluated.symm.trans same)
  exact ⟨by decide, fits, three ▸ made, evaluated⟩

end RetryPolicy

end SignalGenerator
