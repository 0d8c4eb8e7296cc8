import Mathlib.Data.List.Nodup
import SignalGenerator.Proofs.UsableConfiguration

/-!
Command lines whose arguments give each parameter by its full name. The arguments before the one in
turn stand for what they ask for, and one more argument replaces the value of its own parameter; so
the last value of each parameter counts, and the order of the parameters does not.
-/

namespace SignalGenerator

/-- An argument with the full name of a parameter: the switch for debug messages, or a value behind an
equals sign. -/
inductive Assignment
  | verbose
  | value (parameter : Parameter) (typed : String)
deriving DecidableEq

/-- The reader of a parameter accepts what was typed. -/
def Parameter.Accepts : Parameter → String → Prop
  | .help, _ | .verbose, _ => False
  | .port, _ => True
  | .baudRate, typed => ∃ n, Arguments.readInteger typed = .ok n
  | .channel, typed => ∃ channel, Arguments.readChannel typed = .ok channel
  | .waveform, typed => ∃ waveform, Arguments.readWaveform typed = .ok waveform
  | .output, typed => ∃ on, Arguments.readSwitch typed = .ok on
  | .gateTime, typed => ∃ gateTime, Arguments.readGateTime typed = .ok gateTime
  | .limitSamples, typed | .limitMsec, typed => ∃ n, Arguments.readPositive typed = .ok n
  | .frequency, typed | .amplitude, typed | .offset, typed | .phase, typed | .dutyCycle, typed =>
    ∃ x, Arguments.readReal typed = .ok x
  | .pollInterval, typed => ∃ seconds, Arguments.readInterval typed = .ok seconds

namespace Assignment

/-- The argument as it stands on the command line. -/
def text : Assignment → String
  | .verbose => Parameter.verbose.long
  | .value parameter typed => parameter.long ++ "=" ++ typed

def parameter : Assignment → Parameter
  | .verbose => .verbose
  | .value parameter _ => parameter

/-- A value is accepted that its reader accepts, unless it is two dashes. -/
def Accepted : Assignment → Prop
  | .verbose => True
  | .value parameter typed => typed ≠ "--" ∧ parameter.Accepts typed

/-- What an argument gives for a parameter. -/
def typedFor (parameter : Parameter) : Assignment → Option String
  | .verbose => none
  | .value given typed => if given = parameter then some typed else none

variable (assignments : List Assignment)

/-- The last value that is typed for a parameter. -/
def lastTyped (parameter : Parameter) : Option String :=
  (assignments.filterMap (typedFor parameter)).getLast?

/-- What a reader makes of the last value of a parameter. -/
def last {α : Type} (read : String → Except String α) (parameter : Parameter) : Option (Given α) :=
  (lastTyped assignments parameter).bind fun typed => (read typed).toOption.map .value

/-- What arguments ask for: the last value of each parameter that is given, and nothing else than by
default. -/
def asked : Arguments where
  port := (last assignments .ok .port).getD Arguments.default.port
  baudRate := (last assignments Arguments.readInteger .baudRate).getD Arguments.default.baudRate
  channel := (last assignments Arguments.readChannel .channel).getD Arguments.default.channel
  waveform := last assignments Arguments.readWaveform .waveform
  frequency := last assignments Arguments.readReal .frequency
  amplitude := last assignments Arguments.readReal .amplitude
  offset := last assignments Arguments.readReal .offset
  phase := last assignments Arguments.readReal .phase
  dutyCycle := last assignments Arguments.readReal .dutyCycle
  output := last assignments Arguments.readSwitch .output
  gateTime := last assignments Arguments.readGateTime .gateTime
  limitSamples := last assignments Arguments.readPositive .limitSamples
  limitMsec := last assignments Arguments.readPositive .limitMsec
  pollInterval := (last assignments Arguments.readInterval .pollInterval).getD Arguments.default.pollInterval
  verbose := assignments.contains .verbose

/-- The argument as it is recognized. -/
def token : Assignment → Token
  | .verbose => .named .verbose .long none
  | .value parameter typed => .named parameter .long (some typed.toList)

end Assignment

namespace Parameter

theorem ofSpelling?_long (parameter : Parameter) : ofSpelling? parameter.long.toList = some parameter := by
  cases parameter <;> decide

theorem equals_not_mem_long (parameter : Parameter) : '=' ∉ parameter.long.toList := by
  cases parameter <;> decide

/-- A long spelling begins with two dashes. -/
theorem long_eq (parameter : Parameter) : ∃ word, parameter.long.toList = '-' :: '-' :: word := by
  cases parameter <;> exact ⟨_, rfl⟩

/-- No parameter is spelled with two dashes and an equals sign. -/
theorem ofSpelling?_equals {spelling : List Char} (equals : '=' ∈ spelling) (longer : 2 < spelling.length) :
    ofSpelling? spelling = none := by
  unfold ofSpelling?
  split
  · simp at longer
  · refine List.find?_eq_none.mpr fun parameter _ spelled => ?_
    rw [← of_decide_eq_true spelled] at equals
    exact equals_not_mem_long parameter equals

end Parameter

theorem Assignment.text_value (parameter : Parameter) (typed : String) :
    (Assignment.value parameter typed).text.toList = parameter.long.toList ++ '=' :: typed.toList := by
  simp [text]

theorem Assignment.text_ne (assignment : Assignment) : assignment.text ≠ "--" := by
  cases assignment with
  | verbose => decide
  | value parameter typed =>
    intro same
    have equals : '=' ∈ "--".toList := by
      rw [← same, text_value]
      exact List.mem_append_right _ List.mem_cons_self
    exact absurd equals (by decide)

namespace Token

theorem splitEquals_append {name value : List Char} (free : '=' ∉ name) :
    splitEquals (name ++ '=' :: value) = (name, some value) := by
  have passes : ∀ c ∈ name, (c != '=') = true := fun c member =>
    bne_iff_ne.mpr fun same => free (same ▸ member)
  rw [splitEquals, List.dropWhile_append_of_pos passes, List.takeWhile_append_of_pos passes]
  simp

theorem ofArgument_assignment (assignment : Assignment) :
    ofArgument assignment.text = .ok assignment.token := by
  cases assignment with
  | verbose => decide
  | value parameter typed =>
    obtain ⟨word, dashes⟩ := parameter.long_eq
    have unspelled : Parameter.ofSpelling? (parameter.long.toList ++ '=' :: typed.toList) = none :=
      Parameter.ofSpelling?_equals (by simp) (by simp [dashes])
    unfold ofArgument
    simp only [Assignment.text_value, unspelled, splitEquals_append parameter.equals_not_mem_long,
      parameter.ofSpelling?_long]
    simp [dashes, spelling, Assignment.token]

theorem ofArguments_assignments (assignments : List Assignment) :
    ofArguments (assignments.map Assignment.text) = .ok (assignments.map Assignment.token) := by
  induction assignments with
  | nil => rfl
  | cons assignment rest ih =>
    rw [List.map_cons, ofArguments, ofArgument_assignment, ih]
    · rfl
    · exact assignment.text_ne

end Token

namespace Assignment

theorem lastTyped_value (assignments : List Assignment) (given : Parameter) (typed : String)
    (parameter : Parameter) : lastTyped (assignments ++ [.value given typed]) parameter =
      if given = parameter then some typed else lastTyped assignments parameter := by
  rw [lastTyped, lastTyped, List.filterMap_append]
  by_cases same : given = parameter <;> simp [typedFor, same]

theorem lastTyped_verbose (assignments : List Assignment) (parameter : Parameter) :
    lastTyped (assignments ++ [.verbose]) parameter = lastTyped assignments parameter := by
  simp [lastTyped, typedFor]

variable {assignments : List Assignment} {given parameter : Parameter} {typed : String}

theorem last_value {α : Type} {read : String → Except String α} {value : α}
    (accepted : read typed = .ok value) :
    last (assignments ++ [.value given typed]) read given = some (.value value) := by
  rw [last, lastTyped_value, if_pos rfl, Option.bind_some, accepted]
  rfl

theorem last_other {α : Type} {read : String → Except String α} (other : given ≠ parameter) :
    last (assignments ++ [.value given typed]) read parameter = last assignments read parameter := by
  rw [last, lastTyped_value, if_neg other, last]

theorem last_verbose {α : Type} (read : String → Except String α) (parameter : Parameter) :
    last (assignments ++ [.verbose]) read parameter = last assignments read parameter := by
  rw [last, lastTyped_verbose, last]

theorem last_ne_blank {α : Type} {read : String → Except String α} :
    last assignments read parameter ≠ some .blank := by
  rw [last]
  cases lastTyped assignments parameter with
  | none => nofun
  | some typed => cases made : read typed <;> simp [made, Except.toOption]

theorem mem_of_lastTyped (found : lastTyped assignments parameter = some typed) :
    .value parameter typed ∈ assignments := by
  obtain ⟨assignment, member, gives⟩ := List.mem_filterMap.mp (List.mem_of_getLast? found)
  cases assignment with
  | verbose => cases gives
  | value given other =>
    simp only [typedFor, Option.ite_none_right_eq_some, Option.some.injEq] at gives
    obtain ⟨rfl, rfl⟩ := gives
    exact member

theorem set_asked (accepted : (Assignment.value given typed).Accepted) :
    (asked assignments).set given typed = .ok (asked (assignments ++ [.value given typed])) := by
  obtain ⟨single, accepts⟩ := accepted
  have reads {α : Type} {read : String → Except String α} {value : α} (made : read typed = .ok value) :
      Arguments.given read typed = .ok (.value value) := by
    rw [Arguments.given, if_neg single, made]
    rfl
  cases given
  case help | verbose => exact accepts.elim
  case port =>
    have made : Except.ok typed = (Except.ok typed : Except String String) := rfl
    rw [Arguments.set, reads made]
    simp [asked, last_value made, last_other]
  all_goals
    obtain ⟨value, made⟩ := accepts
    rw [Arguments.set, reads made]
    simp [asked, last_value made, last_other]

theorem asked_verbose : asked (assignments ++ [.verbose]) = { asked assignments with verbose := true } := by
  simp [asked, last_verbose]

theorem takesValue_of_accepts (accepts : given.Accepts typed) : given.takesValue = true := by
  cases given
  case help | verbose => exact accepts.elim
  all_goals rfl

/-- One more argument. -/
theorem take_token {extras : List String} {rest : List Token} {assignment : Assignment}
    (accepted : assignment.Accepted) :
    (asked assignments).take extras (assignment.token :: rest) =
      (asked (assignments ++ [assignment])).take extras rest := by
  cases assignment with
  | verbose =>
    rw [asked_verbose]
    rfl
  | value given typed =>
    have unfolded : Arguments.unfold given .long (some typed.toList) = .ok ([], .value given typed) := by
      rw [Arguments.unfold, String.ofList_toList]
      exact takesValue_of_accepts accepted.2
    have set : (asked assignments).setValue given typed =
        .ok (asked (assignments ++ [.value given typed])) := by
      rw [Arguments.setValue, set_asked accepted]
      rfl
    rw [token, Arguments.take, unfolded]
    simp only [Arguments.throwSwitches, List.foldlM_nil, pure_bind, set]
    rfl

/-- All arguments that are still to come. -/
theorem take_tokens {extras : List String} {later : List Assignment}
    (accepted : ∀ assignment ∈ later, assignment.Accepted) :
    (asked assignments).take extras (later.map token) = .ok (asked (assignments ++ later), extras) := by
  induction later generalizing assignments with
  | nil => rw [List.map_nil, Arguments.take, List.append_nil]
  | cons assignment rest ih =>
    obtain ⟨first, others⟩ := List.forall_mem_cons.mp accepted
    rw [List.map_cons, take_token first, ih others, List.append_assoc, List.singleton_append]

theorem parse_asked (accepted : ∀ assignment ∈ assignments, assignment.Accepted) :
    Arguments.parse (assignments.map text) = .ok (asked assignments, []) := by
  rw [Arguments.parse, Token.ofArguments_assignments]
  exact (take_tokens accepted : (asked []).take [] _ = _)

section Order

variable {first second : List Assignment}
  (same : ∀ parameter : Parameter, first.filter (·.parameter = parameter) =
    second.filter (·.parameter = parameter))

theorem lastTyped_filter (parameter : Parameter) :
    lastTyped (assignments.filter (·.parameter = parameter)) parameter = lastTyped assignments parameter := by
  rw [lastTyped, lastTyped, List.filterMap_filter]
  congr 2
  funext assignment
  cases assignment with
  | verbose => exact ite_self _
  | value given typed => by_cases same : given = parameter <;> simp [typedFor, Assignment.parameter, same]

include same

theorem lastTyped_congr (parameter : Parameter) : lastTyped first parameter = lastTyped second parameter := by
  rw [← lastTyped_filter, same, lastTyped_filter]

theorem mem_congr (assignment : Assignment) : assignment ∈ first ↔ assignment ∈ second := by
  have kept (assignments : List Assignment) : assignment ∈ assignments ↔
      assignment ∈ assignments.filter (·.parameter = assignment.parameter) := by
    simp
  rw [kept, same, ← kept]

theorem asked_congr : asked first = asked second := by
  simp only [asked, last, lastTyped_congr same, List.contains_eq_mem, mem_congr same]

end Order

/-- Where no parameter is given twice, arguments in another order are the same for each parameter. -/
theorem filter_of_perm {first second : List Assignment} (perm : first.Perm second)
    (distinct : (second.map Assignment.parameter).Nodup) (given : Parameter) :
    first.filter (·.parameter = given) = second.filter (·.parameter = given) := by
  have kept := perm.filter fun assignment => decide (assignment.parameter = given)
  have single : (second.filter fun assignment => decide (assignment.parameter = given)).length ≤ 1 := by
    have once := List.nodup_iff_count_le_one.mp distinct given
    rw [List.count, List.countP_map, List.countP_eq_length_filter] at once
    exact once
  cases only : second.filter fun assignment => decide (assignment.parameter = given) with
  | nil => exact (only ▸ kept).eq_nil
  | cons assignment rest =>
    rw [only] at kept single
    obtain rfl : rest = [] := List.length_eq_zero_iff.mp (by simpa using single)
    exact kept.eq_singleton

end Assignment

namespace Configuration

open Assignment

theorem of_assignments {assignments : List Assignment} (start : Instant)
    (accepted : ∀ assignment ∈ assignments, assignment.Accepted)
    (positive : ∀ typed ∈ lastTyped assignments .pollInterval, ∀ seconds : Number,
      Arguments.readInterval typed = .ok seconds → (0 : Number).isLess seconds = true) :
    ofCommandLine (assignments.map text) start =
      .ok ⟨asked assignments, start.fileStamp ++ "_counter.csv",
        start.fileStamp ++ "_channel_status.csv"⟩ := by
  have given : ∃ seconds, (asked assignments).pollInterval = .value seconds ∧
      seconds.isAtMost 0 = false := by
    cases typed : lastTyped assignments .pollInterval with
    | none => exact ⟨1, by simp [asked, last, typed, Arguments.default], by decide +kernel⟩
    | some text =>
      obtain ⟨seconds, read⟩ := (accepted _ (mem_of_lastTyped typed)).2
      refine ⟨seconds, ?_, (Number.zero_isLess.mp (positive text typed seconds read)).1⟩
      simp [asked, last, typed, read, Except.toOption]
  obtain ⟨seconds, given, later⟩ := given
  rw [ofCommandLine, Arguments.ofCommandLine_of_parse (parse_asked accepted) given later]
  exact if_neg last_ne_blank

/-- The last value of each parameter counts. The order of arguments does not matter as long as those
of one parameter keep theirs, and not at all where no parameter is given twice. -/
theorem last_value_counts {assignments : List Assignment} (start : Instant)
    (accepted : ∀ assignment ∈ assignments, assignment.Accepted)
    (positive : ∀ typed ∈ lastTyped assignments .pollInterval, ∀ seconds : Number,
      Arguments.readInterval typed = .ok seconds → (0 : Number).isLess seconds = true) :
    ofCommandLine (assignments.map text) start =
      .ok ⟨asked assignments, start.fileStamp ++ "_counter.csv",
        start.fileStamp ++ "_channel_status.csv"⟩ ∧
    (∀ others : List Assignment,
      (∀ parameter : Parameter, others.filter (·.parameter = parameter) =
        assignments.filter (·.parameter = parameter)) →
      ofCommandLine (others.map text) start = ofCommandLine (assignments.map text) start) ∧
    ∀ others : List Assignment, others.Perm assignments → (assignments.map Assignment.parameter).Nodup →
      ofCommandLine (others.map text) start = ofCommandLine (assignments.map text) start := by
  have alike (others : List Assignment) (same : ∀ parameter : Parameter,
      others.filter (·.parameter = parameter) = assignments.filter (·.parameter = parameter)) :
      ofCommandLine (others.map text) start = ofCommandLine (assignments.map text) start := by
    rw [of_assignments start accepted positive, ← asked_congr same]
    refine of_assignments start (fun assignment member => ?_) fun typed => ?_
    · exact accepted assignment ((mem_congr same assignment).mp member)
    · rw [lastTyped_congr same]
      exact positive typed
  exact ⟨of_assignments start accepted positive, alike,
    fun others perm distinct => alike others (filter_of_perm perm distinct)⟩

/-- Two values of one parameter, one of them like an option and one with an equals sign in it, and
another order of the rest. -/
theorem last_value_counts_twice :
    let assignments : List Assignment := [.value .port "first", .value .offset "-0.5", .verbose,
      .value .port "-a=b c", .value .output "ON", .value .pollInterval "0.25"]
    let others : List Assignment := [.value .pollInterval "0.25", .value .port "first", .verbose,
      .value .port "-a=b c", .value .output "ON", .value .offset "-0.5"]
    let start : Instant := ⟨63850576089000000⟩
    (∀ assignment ∈ assignments, assignment.Accepted) ∧
      ofCommandLine (assignments.map text) start =
        .ok ⟨{ Arguments.default with
          port := .value "-a=b c"
          offset := some (.value (.ofDecimal true 5 (-1)))
          output := some (.value true)
          pollInterval := .value (.real (.ofDecimal false 25 (-2)))
          verbose := true },
          "2024-05-06--07-08-09_counter.csv", "2024-05-06--07-08-09_channel_status.csv"⟩ ∧
      ofCommandLine (others.map text) start = ofCommandLine (assignments.map text) start := by
  intro assignments others start
  have accepted : ∀ assignment ∈ assignments, assignment.Accepted := by
    simp only [assignments, List.forall_mem_cons, List.not_mem_nil, IsEmpty.forall_iff, implies_true]
    refine ⟨⟨by decide, trivial⟩, ⟨by decide, .ofDecimal true 5 (-1), by decide +kernel⟩, trivial,
      ⟨by decide, trivial⟩, ⟨by decide, true, by decide +kernel⟩,
      ⟨by decide, .real (.ofDecimal false 25 (-2)), by decide +kernel⟩, trivial⟩
  have positive : ∀ typed ∈ lastTyped assignments .pollInterval, ∀ seconds : Number,
      Arguments.readInterval typed = .ok seconds → (0 : Number).isLess seconds = true := by
    rintro typed ⟨⟩ seconds read
    have quarter : Arguments.readInterval "0.25" = .ok (.real (.ofDecimal false 25 (-2))) := by
      decide +kernel
    cases quarter.symm.trans read
    decide +kernel
  obtain ⟨result, order, _⟩ := last_value_counts start accepted positive
  refine ⟨accepted, result.trans (by decide +kernel), order others fun parameter => ?_⟩
  cases parameter <;> decide +kernel

end Configuration

end SignalGenerator
