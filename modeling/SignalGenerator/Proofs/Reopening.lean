import SignalGenerator.Proofs.Opening

/-!
Opening a generator again after a failed exchange. An attempt that fails closes the port it has opened, so
never more than one port is open, and at the end it is the port of the generator or none.
-/

namespace SignalGenerator

/-- A step at which nothing cuts in from outside: a port fails with an ordinary fault, and a pause is not
cut short. -/
def Step.uninterrupted : Step → Bool
  | ⟨.openPort .., .error fault⟩ | ⟨.write .., .error fault⟩ | ⟨.readLine .., .error fault⟩ =>
    fault.isOf .ordinary
  | ⟨.pauseAtMost _, .error _⟩ => false
  | _ => true

/-- Where nothing cuts in, the program fails with ordinary faults only. -/
inductive Program.Ordinary {α : Type} : Program α → Prop
  | result {value} : Ordinary (.result value)
  | fail {fault} : fault.isOf .ordinary = true → Ordinary (.fail fault)
  | ask {request next} :
      (∀ answer, Step.uninterrupted ⟨request, answer⟩ = true → (next answer).Ordinary) →
      Ordinary (.ask request next)

namespace Program.Ordinary

variable {α β : Type} {program : Program α}

theorem runs (ordinary : program.Ordinary) {steps : List Step} {fault : Fault}
    (run : program.Runs steps (.fault fault)) (calm : ∀ step ∈ steps, step.uninterrupted = true) :
    fault.isOf .ordinary = true := by
  induction ordinary generalizing steps with
  | result => cases run
  | fail right =>
    cases run
    exact right
  | ask _ ih =>
    obtain ⟨answer, rest, rfl, continued⟩ := run.of_ask
    rw [List.forall_mem_cons] at calm
    exact ih answer calm.1 continued calm.2

theorem bind {next : α → Program β} (first : program.Ordinary) (rest : ∀ value, (next value).Ordinary) :
    (program.bind next).Ordinary := by
  induction first with
  | result => exact rest _
  | fail right => exact .fail right
  | ask _ ih => exact .ask ih

theorem attempt_bind {next : Except Fault α → Program β} (first : program.Ordinary)
    (rest : ∀ value, (next (.ok value)).Ordinary)
    (failed : ∀ fault, fault.isOf .ordinary = true → (next (.error fault)).Ordinary) :
    (program.attempt.bind next).Ordinary := by
  induction first with
  | result => exact rest _
  | fail right => exact failed _ right
  | ask _ ih => exact .ask ih

theorem ofExcept {answer : Except Fault α}
    (failed : ∀ fault, answer = .error fault → fault.isOf .ordinary = true) :
    (Program.ofExcept answer).Ordinary := by
  cases answer with
  | ok value => exact .result
  | error fault => exact .fail (failed fault rfl)

theorem ofArithmetic (answer : Except ArithmeticFault α) : (Program.ofArithmetic answer).Ordinary := by
  refine ofExcept fun fault failed => ?_
  rcases answer with (_ | _) | _ <;> cases failed <;> rfl

end Program.Ordinary

open Program (Ordinary)

namespace Exchange

variable {port : Port} {command : String}

/-- What a fault of the port is passed on as is no interrupt either. -/
theorem explain_ordinary {α : Type} {cause : String → Fault} {fault passed : Fault}
    (own : ∀ text, (cause text).isOf .ordinary = true) (ordinary : fault.isOf .ordinary = true)
    (explained : explain cause (.error fault : Except Fault α) = .error passed) :
    passed.isOf .ordinary = true := by
  cases explained
  dsimp only
  split
  · exact own _
  · exact ordinary

theorem send_ordinary (framed : ∃ line, frame command = .ok line) : (send port command).Ordinary := by
  obtain ⟨line, framed⟩ := framed
  rw [send_eq framed]
  refine .ask fun _ _ => .ask fun answer calm => .bind ?_ fun written => ?_
  · refine .ofExcept fun passed explained => ?_
    cases answer with
    | ok written => cases explained
    | error fault => exact explain_ordinary (fun _ => rfl) calm explained
  · split
    · exact .fail rfl
    · exact .result

theorem receive_ordinary : (receive port timeout).Ordinary := by
  rw [receive_eq]
  refine .ask fun answer calm => ?_
  cases answer with
  | error fault => exact .ofExcept fun _ => explain_ordinary (fun _ => rfl) calm
  | ok line =>
    refine .ask fun _ _ => ?_
    split
    · exact .bind (.ofArithmetic _) fun _ => .fail rfl
    · refine .ofExcept fun fault refused => ?_
      unfold Reply.ofLine at refused
      split at refused <;> cases refused
      rfl

theorem query_ordinary (framed : ∃ line, frame command = .ok line) : (query port command).Ordinary := by
  refine (send_ordinary framed).bind fun _ => receive_ordinary.bind fun reply =>
    .ofExcept fun fault refused => ?_
  simp only [Reply.checkData] at refused
  split_ifs at refused <;> cases refused <;> rfl

end Exchange

theorem Identity.identify_ordinary {port : Port} : (identify port).Ordinary := by
  refine (Exchange.query_ordinary ⟨_, rfl⟩).bind fun reply => .ofExcept fun fault refused => ?_
  simp only [ofReply] at refused
  split_ifs at refused
  · cases refused
    rfl
  · cases refused
    rfl
  · cases refused
    rfl
  · split at refused <;> cases refused
    rfl

theorem Generator.openOn_ordinary (name : Given String) (baudRate : Given Int) :
    (openOn name baudRate).Ordinary := by
  refine .ask fun _ _ => .ask fun answer calm => ?_
  cases answer with
  | error fault => exact .fail calm
  | ok port =>
    refine Identity.identify_ordinary.attempt_bind (fun identity => .ask fun _ _ => .result) ?_
    intro fault ordinary
    dsimp only
    rw [if_pos ordinary]
    exact .ask fun _ _ => .fail ordinary

/-- One call of a program, with what came of it. -/
structure Attempt (α : Type) where
  steps : List Step
  outcome : Except Fault α

namespace RetryPolicy

variable {α : Type} {policy : RetryPolicy} {program : Program α}

/-- The calls that a policy makes of a program. It goes on only after a fault to repeat a call for, and
does not give up while a further call may be made. -/
structure Makes (policy : RetryPolicy) (program : Program α) (further : Nat)
    (earlier : List (Attempt α)) (last : Attempt α) : Prop where
  runs : ∀ attempt ∈ earlier ++ [last], program.Runs attempt.steps (.ofExcept attempt.outcome)
  within : earlier.length ≤ further
  retried : ∀ attempt ∈ earlier, ∃ fault, attempt.outcome = .error fault ∧ policy.retries fault = true
  spent : ∀ fault, last.outcome = .error fault → policy.retries fault = true → earlier.length = further

theorem Makes.last_alone {attempt : Attempt α} {further : Nat}
    (run : program.Runs attempt.steps (.ofExcept attempt.outcome))
    (done : ∀ fault, attempt.outcome = .error fault → policy.retries fault = true → further = 0) :
    policy.Makes program further [] attempt where
  runs := List.forall_mem_singleton.mpr run
  within := Nat.zero_le _
  retried := List.forall_mem_nil _
  spent fault failed retries := (done fault failed retries).symm

theorem Makes.cons {first last : Attempt α} {earlier : List (Attempt α)} {further : Nat} {fault : Fault}
    (run : program.Runs first.steps (.ofExcept first.outcome)) (failed : first.outcome = .error fault)
    (retries : policy.retries fault = true) (makes : policy.Makes program further earlier last) :
    policy.Makes program (further + 1) (first :: earlier) last where
  runs := List.forall_mem_cons.mpr ⟨run, makes.runs⟩
  within := Nat.succ_le_succ makes.within
  retried := List.forall_mem_cons.mpr ⟨⟨fault, failed, retries⟩, makes.retried⟩
  spent other ended again := congrArg Nat.succ (makes.spent other ended again)

/-- What is done on ports in these steps is what the calls of a program do that the policy makes, and this
is the outcome of the last one. -/
def Takes (policy : RetryPolicy) (program : Program α) (further : Nat) (steps : List Step)
    (outcome : Except Fault α) : Prop :=
  ∃ earlier last, policy.Makes program further earlier last ∧ outcome = last.outcome ∧
    portCalls steps = (earlier ++ [last]).flatMap (portCalls ·.steps) ∧
    ∀ attempt ∈ earlier ++ [last], ∀ step ∈ attempt.steps, step ∈ steps

theorem Takes.once {steps : List Step} {outcome : Except Fault α} {further : Nat}
    (run : program.Runs steps (.ofExcept outcome))
    (done : ∀ fault, outcome = .error fault → policy.retries fault = true → further = 0) :
    policy.Takes program further steps outcome := by
  refine ⟨[], ⟨steps, outcome⟩, .last_alone run done, rfl, (List.append_nil _).symm, ?_⟩
  exact List.forall_mem_singleton.mpr fun _ => id

theorem Takes.again {first pausing later : List Step} {fault : Fault} {further : Nat}
    {outcome : Except Fault α} (run : program.Runs first (.fault fault))
    (retries : policy.retries fault = true) (silent : portCalls pausing = [])
    (takes : policy.Takes program further later outcome) :
    policy.Takes program (further + 1) (first ++ (pausing ++ later)) outcome := by
  obtain ⟨earlier, last, makes, same, calls, within⟩ := takes
  refine ⟨⟨first, .error fault⟩ :: earlier, last, makes.cons run rfl retries, same, ?_, ?_⟩
  · rw [portCalls_append, portCalls_append, silent, List.nil_append, calls]
    rfl
  · refine List.forall_mem_cons.mpr ⟨fun step member => List.mem_append_left _ member, ?_⟩
    intro attempt among step member
    exact List.mem_append_right _ (List.mem_append_right _ (within attempt among step member))

/-- Induction on the calls that may follow. The pauses leave all ports alone. -/
theorem repeating_takes {pause : Program Unit} (quiet : pause.Quiet)
    (returns : ∀ steps ending, pause.Runs steps ending →
      (∀ step ∈ steps, step.uninterrupted = true) → ending = .result ())
    (ends : ∀ steps, ¬ program.Runs steps .unfinished) (further : Nat) {steps : List Step}
    {ending : Outcome (Except Fault α)}
    (run : (policy.repeating program.attempt pause further).Runs steps ending)
    (calm : ∀ step ∈ steps, step.uninterrupted = true) :
    ∃ outcome, ending = .result outcome ∧ policy.Takes program further steps outcome := by
  induction further generalizing steps with
  | zero =>
    rw [repeating] at run
    rcases run.of_attempt with ⟨value, made, rfl⟩ | ⟨fault, made, rfl⟩ | ⟨stuck, _⟩
    · exact ⟨.ok value, rfl, .once made fun _ _ _ => rfl⟩
    · exact ⟨.error fault, rfl, .once made fun _ _ _ => rfl⟩
    · exact absurd stuck (ends steps)
  | succ further ih =>
    rw [repeating, Program.bind_eq] at run
    rcases run.of_attempt_bind with ⟨outcome, first, rest, rfl, made, continued⟩ | ⟨stuck, _⟩
    · have once (done : ∀ fault, outcome = .error fault → policy.retries fault = true →
          further + 1 = 0) (given : (Program.result outcome).Runs rest ending) :
          ∃ outcome, ending = .result outcome ∧
            policy.Takes program (further + 1) (first ++ rest) outcome := by
        obtain ⟨rfl, rfl⟩ := given.of_result
        rw [List.append_nil]
        exact ⟨outcome, rfl, .once made done⟩
      rcases outcome with fault | value
      · by_cases retries : policy.retries fault = true
        · simp only [retries, if_true, Program.bind_eq] at continued
          have calmRest := (List.forall_mem_append.mp calm).2
          rcases continued.of_bind with ⟨_, pausing, later, rfl, paused, again⟩ | ⟨_, cut, _⟩ | ⟨cut, _⟩
          · obtain ⟨outcome, same, takes⟩ := ih again (List.forall_mem_append.mp calmRest).2
            exact ⟨outcome, same, takes.again made retries (quiet _ _ paused)⟩
          · cases returns _ _ cut calmRest
          · cases returns _ _ cut calmRest
        · simp only [retries] at continued
          refine once (fun other same again => ?_) continued
          cases same
          exact absurd again retries
      · refine once (fun _ same => ?_) continued
        cases same
    · exact absurd stuck (ends _)

end RetryPolicy

/-- What is repeated is a failed exchange. A port that cannot be opened fails with a fault of the system, and
a generator of another family is a wrong value. -/
theorem RetryPolicy.exchanges_retries {fault : Fault} :
    exchanges.retries fault = true ↔ fault.isOf .transport = true ∨ fault.isOf .protocol = true := by
  simp [retries, exchanges]

theorem Fault.isOf_exchange {fault : Fault}
    (exchange : fault.isOf .transport = true ∨ fault.isOf .protocol = true) :
    fault.isOf .system = false ∧ fault.isOf .value = false := by
  unfold Fault.isOf at exchange ⊢
  generalize fault.kind = kind at exchange ⊢
  cases kind <;> simp_all [Fault.Kind.family]

/-- The ports that are open after a call. -/
def PortCall.leaves (ports : List Port) : PortCall → List Port
  | .opened _ (.ok port) => port :: ports
  | .closed port => ports.erase port
  | _ => ports

/-- The ports that are open after some calls. -/
def openPorts (calls : List PortCall) : List Port := calls.foldl PortCall.leaves []

def PortCall.isOpening : PortCall → Bool
  | .opened .. => true
  | _ => false

/-- At no moment is more than one port open. -/
def Exclusive (calls : List PortCall) : Prop :=
  ∀ before after, calls = before ++ after → (openPorts before).length ≤ 1

section
variable {port : Port} {ports : List Port} {calls rest : List PortCall} {name : Given String}

theorem openPorts_append :
    openPorts (calls ++ rest) = rest.foldl PortCall.leaves (openPorts calls) := List.foldl_append

theorem foldl_leaves_of_reaches (reaches : ∀ call ∈ calls, call.Reaches port) :
    calls.foldl PortCall.leaves ports = ports := by
  induction calls with
  | nil => rfl
  | cons call calls ih =>
    obtain ⟨one, others⟩ := List.forall_mem_cons.mp reaches
    rw [List.foldl_cons, show PortCall.leaves ports call = ports by cases call <;> trivial]
    exact ih others

theorem Exclusive.append (first : Exclusive calls) (none : openPorts calls = []) (last : Exclusive rest) :
    Exclusive (calls ++ rest) := by
  intro before after split
  rcases List.append_eq_append_iff.mp split with ⟨between, rfl, inRest⟩ | ⟨between, inFirst, _⟩
  · rw [openPorts_append, none]
    exact last between after inRest
  · exact first before between inFirst

/-- A port is opened, and then lines are written to it and read from it. -/
theorem openPorts_opened (reaches : ∀ call ∈ calls, call.Reaches port) :
    openPorts (.opened name (.ok port) :: calls) = [port] := foldl_leaves_of_reaches reaches

theorem Exclusive.opened (reaches : ∀ call ∈ calls, call.Reaches port) :
    Exclusive (.opened name (.ok port) :: calls) := by
  intro before after split
  cases before with
  | nil => exact Nat.zero_le 1
  | cons call before =>
    obtain ⟨rfl, rfl⟩ := List.cons.inj split
    rw [openPorts_opened fun call member => reaches call (List.mem_append_left _ member)]
    exact Nat.le_refl 1

theorem Exclusive.close (exclusive : Exclusive calls) : Exclusive (calls ++ [.closed port]) := by
  intro before after split
  rcases List.append_eq_append_iff.mp split with ⟨between, rfl, inLast⟩ | ⟨between, inFirst, _⟩
  · rcases List.append_eq_singleton_iff.mp inLast.symm with ⟨rfl, _⟩ | ⟨rfl, _⟩
    · rw [List.append_nil]
      exact exclusive calls [] (List.append_nil _).symm
    · rw [openPorts_append]
      exact (List.length_erase_le ..).trans (exclusive calls [] (List.append_nil _).symm)
  · exact exclusive before between inFirst

theorem Tries.exclusive {ending : Outcome Generator} (tries : Tries name calls ending) :
    Exclusive calls := by
  cases tries with
  | refused =>
    intro before after split
    rcases List.append_eq_singleton_iff.mp split.symm with ⟨rfl, _⟩ | ⟨rfl, _⟩ <;> exact Nat.zero_le 1
  | interrupted _ _ reaches => exact .opened reaches
  | released _ _ reaches => exact (Exclusive.opened reaches).close
  | found _ whole => exact .opened whole.begins.reaches

theorem Tries.openPorts_fault {fault : Fault} (tries : Tries name calls (.fault fault))
    (ordinary : fault.isOf .ordinary = true) : openPorts calls = [] := by
  cases tries with
  | refused => rfl
  | interrupted interrupt => cases interrupt.symm.trans ordinary
  | @released port asked _ _ _ reaches =>
    rw [← List.cons_append, openPorts_append, openPorts_opened reaches]
    exact List.erase_cons_head ..

theorem Tries.openPorts_result {generator : Generator} (tries : Tries name calls (.result generator)) :
    openPorts calls = [generator.port] := by
  cases tries with
  | found _ whole => exact openPorts_opened whole.begins.reaches

/-- A port is opened, or not, once in an attempt. -/
theorem Tries.countP_isOpening {ending : Outcome Generator} (tries : Tries name calls ending) :
    calls.countP PortCall.isOpening = 1 := by
  have none {port : Port} {asked : List PortCall} (reaches : ∀ call ∈ asked, call.Reaches port) :
      asked.countP PortCall.isOpening = 0 := by
    refine List.countP_eq_zero.mpr fun call member => ?_
    have reached := reaches call member
    cases call <;> simp_all [PortCall.isOpening, PortCall.Reaches]
  cases tries with
  | refused => rfl
  | interrupted _ _ reaches => rw [List.countP_cons_of_pos rfl, none reaches]
  | released _ _ reaches =>
    rw [List.countP_cons_of_pos rfl, List.countP_append, none reaches]
    rfl
  | found _ whole => rw [List.countP_cons_of_pos rfl, none whole.begins.reaches]

/-- Attempts that leave no port open come before one that may. -/
theorem Exclusive.attempts {earlier : List (Attempt Generator)}
    (exclusive : ∀ attempt ∈ earlier, Exclusive (portCalls attempt.steps))
    (closed : ∀ attempt ∈ earlier, openPorts (portCalls attempt.steps) = []) (last : Exclusive rest) :
    Exclusive (earlier.flatMap (portCalls ·.steps) ++ rest) ∧
      openPorts (earlier.flatMap (portCalls ·.steps) ++ rest) = openPorts rest := by
  induction earlier with
  | nil => exact ⟨last, rfl⟩
  | cons attempt earlier ih =>
    rw [List.forall_mem_cons] at exclusive closed
    obtain ⟨others, same⟩ := ih exclusive.2 closed.2
    rw [List.flatMap_cons, List.append_assoc]
    refine ⟨exclusive.1.append closed.1 others, ?_⟩
    rw [openPorts_append, closed.1]
    exact same

end

namespace Acquisition

theorem openPersistently_takes {name : Given String} {baudRate : Given Int} {steps : List Step}
    {ending : Outcome Generator} (run : (openPersistently name baudRate).Runs steps ending)
    (calm : ∀ step ∈ steps, step.uninterrupted = true) :
    ∃ outcome, ending = .ofExcept outcome ∧
      RetryPolicy.exchanges.Takes (Generator.openOn name baudRate) 4 steps outcome := by
  have quiet : ((Program.info "Retrying after error").bind fun _ =>
      Program.pauseAtMost longestPause).Quiet :=
    .bind (.info _) fun _ => .ask (fun _ => rfl) fun _ => .ofExcept _
  have returns : ∀ steps ending, ((Program.info "Retrying after error").bind fun _ =>
      Program.pauseAtMost longestPause).Runs steps ending →
      (∀ step ∈ steps, step.uninterrupted = true) → ending = .result () := by
    intro steps ending pausing calm
    obtain ⟨_, _, rfl, paused⟩ := pausing.of_ask
    obtain ⟨answer, _, rfl, ended⟩ := paused.of_ask
    cases answer with
    | error fault => cases calm _ (List.mem_cons_of_mem _ List.mem_cons_self)
    | ok _ => exact ended.of_result.2
  have ends : ∀ steps, ¬ (Generator.openOn name baudRate).Runs steps .unfinished :=
    fun _ stuck => Obtains.finished (Generator.openOn_runs stuck)
  have repeated : ((RetryPolicy.exchanges.repeating (Generator.openOn name baudRate).attempt _
    4).bind Program.ofExcept).Runs steps ending := run
  rcases repeated.of_bind with ⟨outcome, first, rest, rfl, made, given⟩ | ⟨_, stopped, _⟩ | ⟨stuck, _⟩
  · obtain ⟨same, rfl⟩ : rest = [] ∧ ending = .ofExcept outcome := by
      cases outcome with
      | ok _ => exact given.of_result
      | error _ => exact given.of_fail
    subst same
    rw [List.append_nil] at calm ⊢
    obtain ⟨_, same, takes⟩ := RetryPolicy.repeating_takes quiet returns ends 4 made calm
    cases same
    exact ⟨outcome, rfl, takes⟩
  · obtain ⟨_, same, _⟩ := RetryPolicy.repeating_takes quiet returns ends 4 stopped calm
    cases same
  · obtain ⟨_, same, _⟩ := RetryPolicy.repeating_takes quiet returns ends 4 stuck calm
    cases same

/-- A generator is opened in at most five attempts, each after one that ended with a failed exchange, and
what the last one comes to is what comes of it. An attempt that fails closes the port it has opened, so
there is never more than one port open, and at the end it is the one of the generator or none. -/
theorem one_port_at_a_time {name : Given String} {baudRate : Given Int} {steps : List Step}
    {ending : Outcome Generator} (run : (openPersistently name baudRate).Runs steps ending)
    (calm : ∀ step ∈ steps, step.uninterrupted = true) :
    ∃ (earlier : List (Attempt Generator)) (last : Attempt Generator),
      portCalls steps = (earlier ++ [last]).flatMap (portCalls ·.steps) ∧
      (portCalls steps).countP PortCall.isOpening = earlier.length + 1 ∧ earlier.length ≤ 4 ∧
      (∀ attempt ∈ earlier ++ [last],
        (Generator.openOn name baudRate).Runs attempt.steps (.ofExcept attempt.outcome) ∧
          Tries name (portCalls attempt.steps) (.ofExcept attempt.outcome) ∧
          ∀ fault, attempt.outcome = .error fault → fault.isOf .ordinary = true) ∧
      (∀ attempt ∈ earlier, ∃ fault, attempt.outcome = .error fault ∧
        (fault.isOf .transport = true ∨ fault.isOf .protocol = true) ∧
        fault.isOf .system = false ∧ fault.isOf .value = false) ∧
      ending = .ofExcept last.outcome ∧
      (∀ fault, last.outcome = .error fault →
        fault.isOf .transport = true ∨ fault.isOf .protocol = true → earlier.length = 4) ∧
      Exclusive (portCalls steps) ∧
      openPorts (portCalls steps) =
        match last.outcome with
        | .ok generator => [generator.port]
        | .error _ => [] := by
  obtain ⟨_, rfl, earlier, last, makes, rfl, calls, within⟩ := openPersistently_takes run calm
  have tries : ∀ attempt ∈ earlier ++ [last],
      Tries name (portCalls attempt.steps) (.ofExcept attempt.outcome) :=
    fun attempt among => Generator.openOn_tries (makes.runs attempt among)
  have ordinary : ∀ attempt ∈ earlier ++ [last], ∀ fault, attempt.outcome = .error fault →
      fault.isOf .ordinary = true := by
    intro attempt among fault failed
    have made := makes.runs attempt among
    rw [failed] at made
    exact (Generator.openOn_ordinary name baudRate).runs made fun step member =>
      calm step (within attempt among step member)
  have closed : ∀ attempt ∈ earlier ++ [last], ∀ fault, attempt.outcome = .error fault →
      openPorts (portCalls attempt.steps) = [] := by
    intro attempt among fault failed
    have tried := tries attempt among
    rw [failed] at tried
    exact tried.openPorts_fault (ordinary attempt among fault failed)
  have member : last ∈ earlier ++ [last] := List.mem_append_right _ List.mem_cons_self
  have apart : portCalls steps = earlier.flatMap (portCalls ·.steps) ++ portCalls last.steps := by
    rw [calls, List.flatMap_append, List.flatMap_singleton]
  obtain ⟨exclusive, remaining⟩ := Exclusive.attempts
    (fun attempt among => (tries attempt (List.mem_append_left _ among)).exclusive)
    (fun attempt among => by
      obtain ⟨fault, failed, _⟩ := makes.retried attempt among
      exact closed attempt (List.mem_append_left _ among) fault failed)
    (tries last member).exclusive
  refine ⟨earlier, last, calls, ?_, makes.within, fun attempt among => ⟨makes.runs attempt among,
    tries attempt among, ordinary attempt among⟩, ?_, rfl, ?_, apart ▸ exclusive, ?_⟩
  · rw [calls, List.countP_flatMap]
    have single : (earlier ++ [last]).map
        (List.countP PortCall.isOpening ∘ fun attempt => portCalls attempt.steps) =
        (earlier ++ [last]).map fun _ => 1 :=
      List.map_congr_left fun attempt among => (tries attempt among).countP_isOpening
    rw [single]
    simp
  · intro attempt among
    obtain ⟨fault, failed, retries⟩ := makes.retried attempt among
    have exchange := RetryPolicy.exchanges_retries.mp retries
    exact ⟨fault, failed, exchange, Fault.isOf_exchange exchange⟩
  · exact fun fault failed exchange =>
      makes.spent fault failed (RetryPolicy.exchanges_retries.mpr exchange)
  · rw [apart, remaining]
    cases given : last.outcome with
    | ok generator =>
      have tried := tries last member
      rw [given] at tried
      exact tried.openPorts_result
    | error fault => exact closed last member fault given

/-- The reply to the first question is cut short, the second one is not answered, and on the third port a
generator is identified. -/
theorem one_port_at_a_time_thrice :
    let name : Given String := .value "/dev/ttyUSB0"
    let bench := { Bench.empty ⟨62135596800000000⟩ with
      openings := [.opens [.line (asciiBytes ":r0c\n".toList)] [], .opens [.silence] [],
        .opens [.line (asciiBytes ":r0c5225A000\n".toList)] []] }
    let steps := (openPersistently name (.value 57600)).stepsOn bench
    let port : Port := ⟨2, "/dev/ttyUSB0"⟩
    (openPersistently name (.value 57600)).Runs steps
        (.result ⟨port, ⟨"MHS-25A00", .integer 25000000⟩⟩) ∧
      (∀ step ∈ steps, step.uninterrupted = true) ∧
      ∃ (earlier : List (Attempt Generator)) (last : Attempt Generator), earlier.length = 2 ∧
        last.outcome = .ok ⟨port, ⟨"MHS-25A00", .integer 25000000⟩⟩ ∧
        (∀ attempt ∈ earlier, ∃ fault, attempt.outcome = .error fault ∧
          (fault.isOf .transport = true ∨ fault.isOf .protocol = true)) ∧
        Exclusive (portCalls steps) ∧ openPorts (portCalls steps) = [port] := by
  intro name bench steps port
  have ended : ((openPersistently name (.value 57600)).runOn bench).1 =
      .result ⟨port, ⟨"MHS-25A00", .integer 25000000⟩⟩ := by decide +kernel
  have run := Program.runs_runOn (openPersistently name (.value 57600)) bench
  rw [ended] at run
  have calm : ∀ step ∈ steps, step.uninterrupted = true := by decide +kernel
  obtain ⟨earlier, last, _, openings, _, _, retried, same, _, exclusive, remaining⟩ :=
    one_port_at_a_time run calm
  have counted : (portCalls steps).countP PortCall.isOpening = 3 := by decide +kernel
  have two : earlier.length = 2 := Nat.succ.inj (openings.symm.trans counted)
  have kept : last.outcome = .ok ⟨port, ⟨"MHS-25A00", .integer 25000000⟩⟩ :=
    Outcome.ofExcept_eq_result.mp same.symm
  rw [kept] at remaining
  refine ⟨run, calm, earlier, last, two, kept, ?_, exclusive, remaining⟩
  intro attempt among
  obtain ⟨fault, failed, exchange, _⟩ := retried attempt among
  exact ⟨fault, failed, exchange⟩

end Acquisition

end SignalGenerator
