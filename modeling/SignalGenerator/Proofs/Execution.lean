import SignalGenerator.Bench.State

/-!
Executions of programs. An execution goes from the root of the tree to a leaf, with any answer to any
request on the way, so what holds of all executions holds with every port, clock and listener.
-/

namespace SignalGenerator

/-- A request with the answer to it. -/
structure Step where
  request : Request
  answer : request.Answer

namespace Program

variable {α β : Type}

/-- The program can take these steps, one after the other, and end like this. -/
inductive Runs : Program α → List Step → Outcome α → Prop
  | result {value} : Runs (.result value) [] (.result value)
  | fail {fault} : Runs (.fail fault) [] (.fault fault)
  | unfinished : Runs .unfinished [] .unfinished
  | ask {request next answer steps ending} : Runs (next answer) steps ending →
      Runs (.ask request next) (⟨request, answer⟩ :: steps) ending

/-- The steps that a program takes on a bench. -/
def stepsOn : Program α → Bench → List Step
  | .result _, _ | .fail _, _ | .unfinished, _ => []
  | .ask request next, bench =>
    let (answer, later) := bench.answer request
    ⟨request, answer⟩ :: (next answer).stepsOn later

/-- What a program does on a bench is an execution of it. -/
theorem runs_runOn (program : Program α) (bench : Bench) :
    program.Runs (program.stepsOn bench) (program.runOn bench).1 := by
  induction program generalizing bench with
  | result => exact .result
  | fail => exact .fail
  | unfinished => exact .unfinished
  | ask request next ih => exact .ask (ih (bench.answer request).1 (bench.answer request).2)

theorem Runs.of_result {value : α} {steps : List Step} {ending : Outcome α}
    (run : (Program.result value).Runs steps ending) : steps = [] ∧ ending = .result value := by
  cases run
  exact ⟨rfl, rfl⟩

theorem Runs.of_fail {fault : Fault} {steps : List Step} {ending : Outcome α}
    (run : (Program.fail fault : Program α).Runs steps ending) :
    steps = [] ∧ ending = .fault fault := by
  cases run
  exact ⟨rfl, rfl⟩

theorem Runs.of_ask {request : Request} {next : request.Answer → Program α} {steps : List Step}
    {ending : Outcome α} (run : (Program.ask request next).Runs steps ending) :
    ∃ answer rest, steps = ⟨request, answer⟩ :: rest ∧ (next answer).Runs rest ending := by
  cases run with
  | ask rest => exact ⟨_, _, rfl, rest⟩

/-- Taking the fault as a result changes nothing but the ending. -/
theorem Runs.of_attempt {program : Program α} {steps : List Step}
    {ending : Outcome (Except Fault α)} (run : program.attempt.Runs steps ending) :
    (∃ value, program.Runs steps (.result value) ∧ ending = .result (.ok value)) ∨
      (∃ fault, program.Runs steps (.fault fault) ∧ ending = .result (.error fault)) ∨
      (program.Runs steps .unfinished ∧ ending = .unfinished) := by
  induction program generalizing steps with
  | result value =>
    obtain ⟨rfl, rfl⟩ := Runs.of_result run
    exact Or.inl ⟨value, .result, rfl⟩
  | fail fault =>
    obtain ⟨rfl, rfl⟩ := Runs.of_result run
    exact Or.inr (Or.inl ⟨fault, .fail, rfl⟩)
  | unfinished =>
    cases run
    exact Or.inr (Or.inr ⟨.unfinished, rfl⟩)
  | ask request answered ih =>
    obtain ⟨answer, rest, rfl, continued⟩ := Runs.of_ask run
    rcases ih answer continued with ⟨value, done, rfl⟩ | ⟨fault, failed, rfl⟩ | ⟨stuck, rfl⟩
    · exact Or.inl ⟨value, .ask done, rfl⟩
    · exact Or.inr (Or.inl ⟨fault, .ask failed, rfl⟩)
    · exact Or.inr (Or.inr ⟨.ask stuck, rfl⟩)

/-- What a sequence of two programs does when the first one ends with a result, and when it does
not. -/
theorem Runs.of_bind {program : Program α} {next : α → Program β} {steps : List Step}
    {ending : Outcome β} (run : (program.bind next).Runs steps ending) :
    (∃ value first rest, steps = first ++ rest ∧ program.Runs first (.result value) ∧
        (next value).Runs rest ending) ∨
      (∃ fault, program.Runs steps (.fault fault) ∧ ending = .fault fault) ∨
      (program.Runs steps .unfinished ∧ ending = .unfinished) := by
  induction program generalizing steps with
  | result value => exact Or.inl ⟨value, [], steps, rfl, .result, run⟩
  | fail fault =>
    obtain ⟨rfl, rfl⟩ := Runs.of_fail run
    exact Or.inr (Or.inl ⟨fault, .fail, rfl⟩)
  | unfinished =>
    cases run
    exact Or.inr (Or.inr ⟨.unfinished, rfl⟩)
  | ask request answered ih =>
    obtain ⟨answer, rest, rfl, continued⟩ := Runs.of_ask run
    rcases ih answer continued with ⟨value, first, last, rfl, begun, ended⟩ | ⟨fault, failed, rfl⟩ |
      ⟨stuck, rfl⟩
    · exact Or.inl ⟨value, ⟨request, answer⟩ :: first, last, rfl, .ask begun, ended⟩
    · exact Or.inr (Or.inl ⟨fault, .ask failed, rfl⟩)
    · exact Or.inr (Or.inr ⟨.ask stuck, rfl⟩)

/-- Going on after a program that is known to end with a result or with a fault. -/
theorem Runs.of_settled_bind {program : Program α} {next : α → Program β} {steps : List Step}
    {ending : Outcome β} {given : α → List Step → Prop} {failed : List Step → Prop}
    (settled : ∀ steps ending, program.Runs steps ending →
      (∃ value, ending = .result value ∧ given value steps) ∨
        ∃ fault, ending = .fault fault ∧ failed steps)
    (run : (program.bind next).Runs steps ending) :
    (∃ value first rest, steps = first ++ rest ∧ given value first ∧
        (next value).Runs rest ending) ∨
      ∃ fault, ending = .fault fault ∧ failed steps := by
  rcases run.of_bind with ⟨value, first, rest, rfl, done, continued⟩ | ⟨fault, stopped, rfl⟩ | ⟨stuck, _⟩
  · rcases settled _ _ done with ⟨_, same, right⟩ | ⟨_, same, _⟩
    · cases same
      exact Or.inl ⟨value, first, rest, rfl, right, continued⟩
    · cases same
  · rcases settled _ _ stopped with ⟨_, same, _⟩ | ⟨_, _, wrong⟩
    · cases same
    · exact Or.inr ⟨fault, rfl, wrong⟩
  · rcases settled _ _ stuck with ⟨_, same, _⟩ | ⟨_, same, _⟩ <;> cases same

/-- Going on after an operation that gives the state it leaves, also where it fails. -/
theorem Runs.of_stateful_bind {σ : Type} {program : Program (σ × α)}
    {next : σ × α → Program β} {steps : List Step} {ending : Outcome β}
    {given : σ → α → List Step → Prop}
    (returns : ∀ steps ending, program.Runs steps ending →
      ∃ state value, ending = .result (state, value) ∧ given state value steps)
    (run : (program.bind next).Runs steps ending) :
    ∃ state value first rest, steps = first ++ rest ∧ given state value first ∧
      (next (state, value)).Runs rest ending := by
  rcases run.of_bind with ⟨_, first, rest, rfl, done, continued⟩ | ⟨_, stopped, _⟩ | ⟨stuck, _⟩
  · obtain ⟨state, value, same, right⟩ := returns _ _ done
    cases same
    exact ⟨state, value, first, rest, rfl, right, continued⟩
  · obtain ⟨_, _, same, _⟩ := returns _ _ stopped
    cases same
  · obtain ⟨_, _, same, _⟩ := returns _ _ stuck
    cases same

/-- A sequence that gives a result has got one from its first program. -/
theorem Runs.of_bind_result {program : Program α} {next : α → Program β} {steps : List Step}
    {value : β} (run : (program.bind next).Runs steps (.result value)) :
    ∃ middle first rest, steps = first ++ rest ∧ program.Runs first (.result middle) ∧
      (next middle).Runs rest (.result value) := by
  rcases run.of_bind with parts | ⟨_, _, ended⟩ | ⟨_, ended⟩
  · exact parts
  · cases ended
  · cases ended

/-- Going on with what a computation without requests has given. -/
theorem Runs.of_ofExcept_bind {answer : Except Fault α} {next : α → Program β} {steps : List Step}
    {ending : Outcome β} (run : ((ofExcept answer).bind next).Runs steps ending) :
    (∃ value, answer = .ok value ∧ (next value).Runs steps ending) ∨
      ∃ fault, answer = .error fault ∧ steps = [] ∧ ending = .fault fault := by
  cases answer with
  | ok value => exact Or.inl ⟨value, rfl, run⟩
  | error fault => exact Or.inr ⟨fault, rfl, run.of_fail⟩

theorem Runs.of_ofArithmetic_bind {answer : Except ArithmeticFault α} {next : α → Program β}
    {steps : List Step} {ending : Outcome β} (run : ((ofArithmetic answer).bind next).Runs steps ending) :
    (∃ value, answer = .ok value ∧ (next value).Runs steps ending) ∨
      ∃ fault, answer = .error fault ∧ steps = [] ∧ ending = .fault (.arithmetic fault) := by
  cases answer with
  | ok value => exact Or.inl ⟨value, rfl, run⟩
  | error fault => exact Or.inr ⟨fault, rfl, Runs.of_fail run⟩

@[simp] theorem result_bind (value : α) (next : α → Program β) :
    (Program.result value).bind next = next value := rfl

@[simp] theorem fail_bind (fault : Fault) (next : α → Program β) :
    (Program.fail fault).bind next = .fail fault := rfl

@[simp] theorem ofExcept_ok (value : α) : ofExcept (.ok value) = .result value := rfl

@[simp] theorem ofExcept_error (fault : Fault) :
    ofExcept (.error fault : Except Fault α) = .fail fault := rfl

/-- Going on after a fault has been taken as a result, and failing with it, is the same as not taking
it. -/
theorem bind_attempt (program : Program α) (next : Except Fault α → Program β)
    (passes : ∀ fault, next (.error fault) = .fail fault) :
    program.attempt.bind next = program.bind fun value => next (.ok value) := by
  induction program with
  | result => rfl
  | fail fault => exact passes fault
  | unfinished => rfl
  | ask request answered ih => simp only [attempt, bind, ih]

end Program

instance decidableEqExcept {ε α : Type} [DecidableEq ε] [DecidableEq α] : DecidableEq (Except ε α)
  | .error _, .error _ => decidable_of_decidable_of_iff ⟨congrArg Except.error, Except.error.inj⟩
  | .ok _, .ok _ => decidable_of_decidable_of_iff ⟨congrArg Except.ok, Except.ok.inj⟩
  | .error _, .ok _ => isFalse nofun
  | .ok _, .error _ => isFalse nofun

/-- What a program does to ports. -/
inductive PortCall
  | opened (name : Given String) (answer : Except Fault Port)
  | wrote (port : Port) (line : List UInt8) (answer : Except Fault Int)
  | read (port : Port) (answer : Except Fault (List UInt8))
  | closed (port : Port)
deriving DecidableEq

def Step.portCall? : Step → Option PortCall
  | ⟨.openPort name _, answer⟩ => some (.opened name answer)
  | ⟨.write port _ line, answer⟩ => some (.wrote port line answer)
  | ⟨.readLine port _, answer⟩ => some (.read port answer)
  | ⟨.closePort port, _⟩ => some (.closed port)
  | _ => none

/-- The calls on ports in an execution, in order. -/
def portCalls (steps : List Step) : List PortCall := steps.filterMap Step.portCall?

@[simp] theorem portCalls_nil : portCalls [] = [] := rfl

@[simp] theorem portCalls_append (first rest : List Step) :
    portCalls (first ++ rest) = portCalls first ++ portCalls rest := List.filterMap_append

/-- A program that leaves all ports alone. -/
def Program.Quiet {α : Type} (program : Program α) : Prop :=
  ∀ steps ending, program.Runs steps ending → portCalls steps = []

namespace Program.Quiet

variable {α β : Type}

theorem result (value : α) : (Program.result value).Quiet := by
  intro steps ending run
  rw [run.of_result.1, portCalls_nil]

theorem fail (fault : Fault) : (Program.fail fault : Program α).Quiet := by
  intro steps ending run
  rw [run.of_fail.1, portCalls_nil]

theorem ofExcept (answer : Except Fault α) : (Program.ofExcept answer).Quiet := by
  cases answer with
  | ok value => exact result value
  | error fault => exact fail fault

theorem ask {request : Request} {next : request.Answer → Program α}
    (silent : ∀ answer, Step.portCall? ⟨request, answer⟩ = none)
    (rest : ∀ answer, (next answer).Quiet) : (Program.ask request next).Quiet := by
  intro steps ending run
  obtain ⟨answer, later, rfl, continued⟩ := run.of_ask
  rw [portCalls, List.filterMap_cons_none (silent answer)]
  exact rest answer _ _ continued

theorem bind {program : Program α} {next : α → Program β} (first : program.Quiet)
    (rest : ∀ value, (next value).Quiet) : (program.bind next).Quiet := by
  intro steps ending run
  rcases run.of_bind with ⟨value, early, late, rfl, begun, ended⟩ | ⟨fault, failed, _⟩ | ⟨stuck, _⟩
  · rw [portCalls_append, first _ _ begun, rest value _ _ ended, List.append_nil]
  · exact first _ _ failed
  · exact first _ _ stuck

theorem attempt {program : Program α} (quiet : program.Quiet) : program.attempt.Quiet := by
  intro steps ending run
  rcases run.of_attempt with ⟨_, done, _⟩ | ⟨_, failed, _⟩ | ⟨stuck, _⟩
  · exact quiet _ _ done
  · exact quiet _ _ failed
  · exact quiet _ _ stuck

theorem info (message : String) : (Program.info message).Quiet :=
  ask (fun _ => rfl) fun _ => result _

theorem stopwatch : Program.stopwatch.Quiet := ask (fun _ => rfl) fun _ => result _

theorem deliver (sample : Sample) : (Program.deliver sample).Quiet :=
  ask (fun _ => rfl) fun _ => ofExcept _

end Program.Quiet

end SignalGenerator
