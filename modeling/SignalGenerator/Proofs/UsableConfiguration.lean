import SignalGenerator.Acquisition.Configuration
import SignalGenerator.Proofs.Encoding

/-!
What a configuration holds once its command line was accepted. The check of each parameter is made
when its value is read; one invariant carries them through the arguments from left to right. Two
dashes that are attached to a parameter leave a gap in its place, which no check sees.
-/

namespace SignalGenerator

section Steps

variable {ε α β : Type} {first : Except ε α}

/-- A result of two steps comes from a result of the first. -/
theorem of_bind_ok {next : α → Except ε β} {result : β} (run : first >>= next = .ok result) :
    ∃ value, first = .ok value ∧ next value = .ok result := by
  cases first with
  | error fault => cases run
  | ok value => exact ⟨value, rfl, run⟩

theorem of_map_ok {f : α → β} {result : β} (run : first.map f = .ok result) :
    ∃ value, first = .ok value ∧ f value = result := by
  cases first with
  | error fault => cases run
  | ok value => exact ⟨value, rfl, Except.ok.inj run⟩

end Steps

/-- The value that was given meets a condition. There may be a gap in its place where `gaps` holds. -/
def Given.Meets {α : Type} (gaps : Prop) (condition : α → Prop) : Given α → Prop
  | .value given => condition given
  | .blank => gaps

variable {gaps : Prop} {arguments after : Arguments} {typed : String}

namespace Arguments

/-- The settings of a run loop are in range, as far as they have a value. -/
structure InRange (gaps : Prop) (arguments : Arguments) : Prop where
  channel : arguments.channel.Meets gaps (· ∈ channels)
  output : ∀ given ∈ arguments.output, given.Meets gaps fun _ => True
  gateTime : ∀ given ∈ arguments.gateTime, given.Meets gaps fun _ => True
  limitSamples : ∀ given ∈ arguments.limitSamples, given.Meets gaps (0 < ·)
  limitMsec : ∀ given ∈ arguments.limitMsec, given.Meets gaps (0 < ·)
  pollInterval : arguments.pollInterval.Meets gaps fun _ => True

theorem default_inRange : default.InRange gaps where
  channel := List.mem_cons_self
  output := nofun
  gateTime := nofun
  limitSamples := nofun
  limitMsec := nofun
  pollInterval := trivial

theorem given_meets {α : Type} {read : String → Except String α} {condition : α → Prop}
    {result : Given α} (sound : ∀ value, read typed = .ok value → condition value)
    (gap : typed = "--" → gaps) (run : given read typed = .ok result) :
    result.Meets gaps condition := by
  unfold given at run
  split at run
  · cases run
    exact gap ‹_›
  · obtain ⟨value, reading, rfl⟩ := of_map_ok run
    exact sound value reading

theorem some_given_meets {α : Type} {read : String → Except String α} {condition : α → Prop}
    {result : Given α} (sound : ∀ value, read typed = .ok value → condition value)
    (gap : typed = "--" → gaps) (run : given read typed = .ok result) :
    ∀ given ∈ some result, given.Meets gaps condition := by
  rintro _ ⟨⟩
  exact given_meets sound gap run

theorem readChannel_mem {n : Int} (run : readChannel typed = .ok n) : n ∈ channels := by
  obtain ⟨channel, -, checked⟩ := of_bind_ok run
  split at checked
  · cases checked
    exact List.contains_iff_mem.mp ‹_›
  · cases checked

theorem readPositive_pos {n : Int} (run : readPositive typed = .ok n) : 0 < n := by
  unfold readPositive at run
  split at run
  · cases run
  · split at run
    · cases run
      assumption
    · cases run

theorem set_inRange {parameter : Parameter} (gap : typed = "--" → gaps)
    (range : arguments.InRange gaps) (run : arguments.set parameter typed = .ok after) :
    after.InRange gaps := by
  cases parameter <;> unfold set at run
  case help | verbose =>
    cases run
    exact range
  all_goals
    obtain ⟨given, read, made⟩ := of_bind_ok run
    cases made
  case channel => exact { range with channel := given_meets (fun _ => readChannel_mem) gap read }
  case output => exact { range with output := some_given_meets (fun _ _ => trivial) gap read }
  case gateTime => exact { range with gateTime := some_given_meets (fun _ _ => trivial) gap read }
  case limitSamples => exact { range with limitSamples := some_given_meets (fun _ => readPositive_pos) gap read }
  case limitMsec => exact { range with limitMsec := some_given_meets (fun _ => readPositive_pos) gap read }
  case pollInterval => exact { range with pollInterval := given_meets (fun _ _ => trivial) gap read }
  all_goals exact { range with }

theorem setValue_inRange {parameter : Parameter} (gap : typed = "--" → gaps)
    (range : arguments.InRange gaps) (run : arguments.setValue parameter typed = .ok after) :
    after.InRange gaps :=
  set_inRange gap range (Limits.mapError_eq_ok run)

theorem throwSwitches_inRange {switches : List Parameter} (range : arguments.InRange gaps)
    (run : arguments.throwSwitches switches = .ok after) : after.InRange gaps := by
  induction switches generalizing arguments with
  | nil =>
    cases run
    exact range
  | cons switch rest ih =>
    obtain ⟨thrown, made, run⟩ := of_bind_ok run
    refine ih ?_ run
    cases switch
    case help => cases made
    case verbose =>
      cases made
      exact { range with }
    all_goals
      cases made
      exact range

/-- The value at the end of unfolded letters is a last part of them. -/
theorem unfoldLetters_suffix {switch named : Parameter} {letters : List Char}
    {switches : List Parameter} {value : String}
    (run : unfoldLetters switch letters = .ok (switches, .value named value)) :
    value.toList <:+ letters := by
  fun_induction unfoldLetters switch letters generalizing switches with
  | case1 | case2 => cases run
  | case3 switch letter rest next =>
    split at run
    · cases run
    · cases run
      rw [String.toList_ofList]
      exact List.suffix_cons letter rest
  | case4 => cases run
  | case5 switch letter rest next _ _ _ ih =>
    obtain ⟨⟨_, _⟩, unfolded, same⟩ := of_map_ok run
    cases same
    exact (ih unfolded).trans (List.suffix_cons letter rest)

/-- The value in an argument that names parameters is a last part of it. -/
theorem unfold_suffix {parameter named : Parameter} {spelling : Spelling}
    {attached : Option (List Char)} {switches : List Parameter} {value : String}
    (run : unfold parameter spelling attached = .ok (switches, .value named value)) :
    ∃ letters, attached = some letters ∧ value.toList <:+ letters := by
  unfold unfold at run
  split at run
  case h_2 letters _ _ =>
    cases run
    exact ⟨_, rfl, String.toList_ofList.symm ▸ List.suffix_rfl⟩
  case h_4 => exact ⟨_, rfl, unfoldLetters_suffix run⟩
  all_goals cases run

/-- The values that arguments can give are allowed. Behind two dashes that stand alone there are
operands only, and none of them is a value. -/
inductive Gives (allowed : String → Prop) : List Token → Prop
  | nil : Gives allowed []
  | operand {text rest} : allowed text → Gives allowed rest → Gives allowed (.operand text :: rest)
  | unknown {text rest} : Gives allowed rest → Gives allowed (.unknown text :: rest)
  | named {parameter spelling attached rest} :
      (∀ letters ∈ attached, ∀ value : String, value.toList <:+ letters → allowed value) →
      Gives allowed rest → Gives allowed (.named parameter spelling attached :: rest)
  | separator (texts : List String) : Gives allowed (.separator :: texts.map .operand)

theorem take_operands (extras texts : List String) :
    arguments.take extras (texts.map .operand) = .ok (arguments, extras ++ texts) := by
  induction texts generalizing extras with
  | nil => rw [List.map_nil, take, List.append_nil]
  | cons text rest ih => rw [List.map_cons, take, ih, List.append_assoc, List.singleton_append]

/-- What the throwing of switches keeps, and the setting of every allowed value, lasts through all
arguments. -/
theorem take_keeps {holds : Arguments → Prop} {allowed : String → Prop}
    (threw : ∀ {arguments switches after}, holds arguments →
      throwSwitches arguments switches = .ok after → holds after)
    (set : ∀ {arguments parameter value after}, allowed value → holds arguments →
      setValue arguments parameter value = .ok after → holds after)
    {extras left : List String} {tokens : List Token} (gives : Gives allowed tokens)
    (start : holds arguments) (run : arguments.take extras tokens = .ok (after, left)) :
    holds after := by
  fun_induction take arguments extras tokens with
  | case1 =>
    cases run
    exact start
  | case2 _ _ _ _ ih =>
    cases gives with
    | operand _ more => exact ih more start run
  | case3 =>
    cases gives with
    | separator texts =>
      rw [take_operands] at run
      cases run
      exact start
  | case4 _ _ _ _ ih =>
    cases gives with
    | unknown more => exact ih more start run
  | case5 => cases run
  | case6 _ _ _ _ _ _ _ _ ih =>
    obtain ⟨thrown, first, run⟩ := of_bind_ok run
    cases gives with
    | named _ more => exact ih thrown more (threw start first) run
  | case7 _ _ _ _ _ _ _ _ _ unfolded ih =>
    obtain ⟨thrown, first, run⟩ := of_bind_ok run
    obtain ⟨changed, second, run⟩ := of_bind_ok run
    cases gives with
    | named fine more =>
      obtain ⟨letters, attached, ends⟩ := unfold_suffix unfolded
      exact ih changed more (set (fine letters attached _ ends) (threw start first) second) run
  | case8 _ _ _ _ _ _ _ _ _ _ ih =>
    obtain ⟨thrown, first, run⟩ := of_bind_ok run
    obtain ⟨changed, second, run⟩ := of_bind_ok run
    cases gives with
    | named _ more =>
      cases more with
      | operand fine last => exact ih changed last (set fine (threw start first) second) run
  | case9 => cases run

end Arguments

namespace Token

theorem splitEquals_suffix {text letters : List Char} (found : letters ∈ (splitEquals text).2) :
    letters <:+ text := by
  unfold splitEquals at found
  split at found
  · cases found
    next rest dropped =>
      have ends := List.dropWhile_suffix (· != '=') (l := text)
      rw [dropped] at ends
      exact (List.suffix_cons _ _).trans ends
  · cases found

theorem candidates_suffix {text letters : List Char} {parameter : Parameter}
    {attached : Option (List Char)} (candidate : (parameter, attached) ∈ candidates text)
    (found : letters ∈ attached) : letters <:+ text := by
  unfold candidates at candidate
  split at candidate
  · obtain ⟨_, _, same⟩ := List.mem_map.mp candidate
    cases same
    exact splitEquals_suffix found
  · obtain ⟨_, _, same⟩ := Option.map_eq_some_iff.mp (Option.mem_toList.mp candidate)
    cases same
    cases found
    exact (List.suffix_cons _ _).trans (List.suffix_cons _ _)
  · cases candidate

/-- An argument is an operand or unknown as it stands, or it names a parameter, and what it gives it is
a last part of the argument. -/
theorem ofArgument_cases {text : String} {token : Token} (made : ofArgument text = .ok token) :
    token = .operand text ∨ token = .unknown text ∨ ∃ parameter spelling attached,
      token = .named parameter spelling attached ∧ ∀ letters ∈ attached, letters <:+ text.toList := by
  unfold ofArgument at made
  dsimp only at made
  split at made
  · cases made
    exact Or.inl rfl
  split at made
  · cases made
    exact Or.inr (Or.inr ⟨_, _, _, rfl, nofun⟩)
  split at made
  · cases made
    exact Or.inl rfl
  split at made
  · cases made
    refine Or.inr (Or.inr ⟨_, _, _, rfl, ?_⟩)
    rintro letters ⟨⟩
    exact splitEquals_suffix ‹_›
  · unfold ofAbbreviation at made
    split at made
    next parameter attached only =>
      cases made
      exact Or.inr (Or.inr ⟨_, _, _, rfl, fun letters found =>
        candidates_suffix (only ▸ List.mem_singleton_self _) found⟩)
    · split at made <;> cases made
      · exact Or.inl rfl
      · exact Or.inr (Or.inl rfl)
    · cases made

/-- What the last parts of the arguments can give, other than the two dashes that stand alone. -/
theorem ofArguments_gives {allowed : String → Prop} {commandLine : List String} {tokens : List Token}
    (fine : ∀ argument ∈ commandLine, argument ≠ "--" →
      ∀ value : String, value.toList <:+ argument.toList → allowed value)
    (made : ofArguments commandLine = .ok tokens) : Arguments.Gives allowed tokens := by
  fun_induction ofArguments commandLine generalizing tokens with
  | case1 =>
    cases made
    exact .nil
  | case2 rest =>
    cases made
    exact .separator rest
  | case3 text rest single ih =>
    obtain ⟨token, first, made⟩ := of_bind_ok made
    obtain ⟨later, others, made⟩ := of_bind_ok made
    cases made
    obtain ⟨fine, more⟩ := List.forall_mem_cons.mp fine
    have ends := fine single
    have gives := ih more others
    rcases ofArgument_cases first with rfl | rfl | ⟨parameter, spelling, attached, rfl, suffix⟩
    · exact .operand (ends text List.suffix_rfl) gives
    · exact .unknown gives
    · exact .named (fun letters found value part => ends value (part.trans (suffix letters found))) gives

end Token

/-- Two dashes at the end of an argument that does not consist of them. -/
def AttachesDashes (argument : String) : Prop := argument ≠ "--" ∧ "--".toList <:+ argument.toList

theorem Arguments.parse_inRange {commandLine extras : List String} {arguments : Arguments}
    (run : parse commandLine = .ok (arguments, extras)) :
    arguments.InRange (∃ argument ∈ commandLine, AttachesDashes argument) := by
  obtain ⟨tokens, made, run⟩ := of_bind_ok run
  refine take_keeps (fun range threw => throwSwitches_inRange range threw)
    (fun gap range set => setValue_inRange gap range set) (Token.ofArguments_gives ?_ made) default_inRange run
  rintro argument member other value ends rfl
  exact ⟨argument, member, other, ends⟩

/-- What lies to the right of zero, in the way a loop asks for it. -/
theorem Number.zero_isLess {a : Number} :
    (0 : Number).isLess a = true ↔ a.isAtMost 0 = false ∧ a ≠ .real .nan := by
  have lies : a.place = .nowhere ↔ a = .real .nan := by
    rcases a with n | (_ | ⟨_ | _⟩ | _)
    case real.nan => exact ⟨fun _ => rfl, fun _ => rfl⟩
    all_goals exact ⟨nofun, nofun⟩
  rw [Ne, ← lies, isAtMost, isLess, isLess, isSame,
    show (0 : Number).place = .units 0 from congrArg Place.units (Int.zero_mul _)]
  cases a.place with
  | units n =>
    simp only [Place.isLess, Place.isSame, decide_eq_true_eq, Bool.or_eq_false_iff,
      decide_eq_false_iff_not, Place.units.injEq, reduceCtorEq, not_false_eq_true, and_true]
    omega
  | below | above | nowhere => simp [Place.isLess, Place.isSame]

namespace Arguments

/-- What a run loop can work with: polls that follow each other in time, limits that can be met, a
channel of the generator, and a value wherever a setting is asked for. -/
structure Usable (arguments : Arguments) : Prop where
  pollInterval : ∃ seconds, arguments.pollInterval = .value seconds ∧ (0 : Number).isLess seconds = true
  limitSamples : arguments.limitSamples = none ∨ ∃ n, arguments.limitSamples = some (.value n) ∧ 1 ≤ n
  limitMsec : arguments.limitMsec = none ∨ ∃ n, arguments.limitMsec = some (.value n) ∧ 1 ≤ n
  channel : arguments.channel = .value 1 ∨ arguments.channel = .value 2
  gateTime : arguments.gateTime = none ∨ ∃ gateTime, arguments.gateTime = some (.value gateTime)
  output : arguments.output = none ∨ ∃ on, arguments.output = some (.value on)

/-- A setting of the run loop has nothing in the place of its value. -/
def HasGap (arguments : Arguments) : Prop :=
  arguments.pollInterval = .blank ∨ arguments.limitSamples = some .blank ∨
    arguments.limitMsec = some .blank ∨ arguments.channel = .blank ∨
    arguments.gateTime = some .blank ∨ arguments.output = some .blank

theorem InRange.of_gap (range : arguments.InRange gaps) (gap : arguments.HasGap) : gaps := by
  rcases gap with gap | gap | gap | gap | gap | gap
  · have met := range.pollInterval
    rwa [gap] at met
  · exact range.limitSamples _ gap
  · exact range.limitMsec _ gap
  · have met := range.channel
    rwa [gap] at met
  · exact range.gateTime _ gap
  · exact range.output _ gap

theorem value_of_meets {α : Type} {condition : α → Prop} {setting : Option (Given α)}
    (meets : ∀ given ∈ setting, given.Meets gaps condition) (present : setting ≠ some .blank) :
    setting = none ∨ ∃ value, setting = some (.value value) ∧ condition value := by
  rcases setting with _ | ⟨value⟩ | _
  · exact Or.inl rfl
  · exact Or.inr ⟨value, rfl, meets _ rfl⟩
  · exact absurd rfl present

theorem usable_iff (range : arguments.InRange gaps) {seconds : Number}
    (given : arguments.pollInterval = .value seconds) (later : seconds.isAtMost 0 = false) :
    arguments.Usable ↔ arguments.pollInterval ≠ .value (.real .nan) ∧ ¬ arguments.HasGap := by
  have numeric : arguments.pollInterval ≠ .value (.real .nan) ↔ seconds ≠ .real .nan := by
    rw [given, Ne, Given.value.injEq]
  rw [numeric]
  constructor
  · intro usable
    obtain ⟨other, same, positive⟩ := usable.pollInterval
    cases given.symm.trans same
    refine ⟨(Number.zero_isLess.mp positive).2, ?_⟩
    rintro (gap | gap | gap | gap | gap | gap)
    · exact nomatch given.symm.trans gap
    · simpa [gap] using usable.limitSamples
    · simpa [gap] using usable.limitMsec
    · simpa [gap] using usable.channel
    · simpa [gap] using usable.gateTime
    · simpa [gap] using usable.output
  · rintro ⟨number, gapless⟩
    simp only [HasGap, not_or] at gapless
    obtain ⟨_, samples, msec, channel, gateTime, output⟩ := gapless
    refine ⟨⟨seconds, given, Number.zero_isLess.mpr ⟨later, number⟩⟩,
      value_of_meets range.limitSamples samples, value_of_meets range.limitMsec msec, ?_, ?_, ?_⟩
    · have known := range.channel
      cases chosen : arguments.channel with
      | value n => simpa [chosen, Given.Meets, channels] using known
      | blank => exact absurd chosen channel
    · simpa using value_of_meets range.gateTime gateTime
    · simpa using value_of_meets range.output output

end Arguments

theorem Arguments.ofCommandLine_of_parse {commandLine : List String} {seconds : Number}
    (parsed : parse commandLine = .ok (arguments, [])) (given : arguments.pollInterval = .value seconds)
    (later : seconds.isAtMost 0 = false) : ofCommandLine commandLine = .ok arguments := by
  simp [ofCommandLine, parsed, given, later, Given.demand, bind, Except.bind, pure, Except.pure]

namespace Configuration

/-- The end of every command line. It is refused, or what it asks for can drive a run loop unless an
interval is asked for that is not a number; only where two dashes are attached to something can a
value be missing, which is found out at once for an interval or a gate time, and later for the other
settings. -/
theorem usable_iff_numeric (commandLine : List String) (start : Instant) :
    (∃ code message, ofCommandLine commandLine start = .error (.exited code message)) ∨
    (∃ configuration, ofCommandLine commandLine start = .ok configuration ∧
      configuration.arguments.InRange (∃ argument ∈ commandLine, AttachesDashes argument) ∧
      (configuration.arguments.HasGap → ∃ argument ∈ commandLine, AttachesDashes argument) ∧
      (configuration.arguments.Usable ↔
        configuration.arguments.pollInterval ≠ .value (.real .nan) ∧ ¬ configuration.arguments.HasGap)) ∨
    ((∃ argument ∈ commandLine, AttachesDashes argument) ∧
      (ofCommandLine commandLine start = .error (.blank .pollInterval) ∨
        ofCommandLine commandLine start = .error (.blank .gateTime))) := by
  unfold ofCommandLine
  cases parsed : Arguments.parse commandLine with
  | error exit =>
    refine Or.inl ⟨exit.code, exit.message, ?_⟩
    rw [Arguments.ofCommandLine, parsed]
    rfl
  | ok found =>
    obtain ⟨arguments, _ | ⟨extra, more⟩⟩ := found
    case cons =>
      left
      rw [Arguments.ofCommandLine, parsed]
      exact ⟨2, _, rfl⟩
    have range := Arguments.parse_inRange parsed
    cases given : arguments.pollInterval with
    | blank =>
      have gap := range.pollInterval
      rw [given] at gap
      refine Or.inr (Or.inr ⟨gap, Or.inl ?_⟩)
      simp [Arguments.ofCommandLine, parsed, given, Given.demand, bind, Except.bind]
    | value seconds =>
      cases later : seconds.isAtMost 0 with
      | true =>
        refine Or.inl ⟨2, "--poll-interval must be positive", ?_⟩
        simp [Arguments.ofCommandLine, parsed, given, later, Given.demand, bind, Except.bind,
          Arguments.refuse, Exit.refusal]
      | false =>
        rw [Arguments.ofCommandLine_of_parse parsed given later]
        by_cases timed : arguments.gateTime = some .blank
        · have gap := range.gateTime _ timed
          exact Or.inr (Or.inr ⟨gap, Or.inr (if_pos timed)⟩)
        · refine Or.inr (Or.inl ⟨⟨arguments, _, _⟩, if_neg timed, range, range.of_gap, ?_⟩)
          exact Arguments.usable_iff range given later

/-- An interval that is not a number is accepted. A limit is accepted without a value, and a gate time
without one ends in a fault that is no refusal. -/
theorem nan_interval_accepted :
    let start : Instant := ⟨63850576089000000⟩
    let files : Arguments → Configuration := fun arguments => ⟨arguments,
      "2024-05-06--07-08-09_counter.csv", "2024-05-06--07-08-09_channel_status.csv"⟩
    let unending : Arguments := { Arguments.default with pollInterval := .value (.real .nan) }
    let unlimited : Arguments := { Arguments.default with limitSamples := some .blank }
    (ofCommandLine ["--poll-interval", "nan"] start = .ok (files unending) ∧ ¬ unending.Usable) ∧
    (ofCommandLine ["--limit-samples=--"] start = .ok (files unlimited) ∧ ¬ unlimited.Usable) ∧
    ofCommandLine ["--gate-time=--"] start = .error (.blank .gateTime) := by
  refine ⟨⟨by decide +kernel, ?_⟩, ⟨by decide +kernel, ?_⟩, by decide +kernel⟩
  · intro usable
    obtain ⟨_, ⟨⟩, positive⟩ := usable.pollInterval
    cases positive
  · intro usable
    rcases usable.limitSamples with absent | ⟨_, ⟨⟩, _⟩
    cases absent

end Configuration

end SignalGenerator
