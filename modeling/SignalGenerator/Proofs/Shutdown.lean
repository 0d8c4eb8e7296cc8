import SignalGenerator.Proofs.Course

/-!
What is written to a generator in a whole acquisition. The lines follow one plan, and however the
acquisition ends, the counter is turned off by the last line if it was turned on, and the port is closed.
-/

namespace SignalGenerator

/-- A line that turns the counter on or off. -/
def Switches (line : List UInt8) : Prop := asciiBytes ":s6b".toList <+: line

instance (line : List UInt8) : Decidable (Switches line) :=
  inferInstanceAs (Decidable (asciiBytes ":s6b".toList <+: line))

def counterOn : List UInt8 := asciiBytes ":s6b1\n".toList

def counterOff : List UInt8 := asciiBytes ":s6b0\n".toList

/-- The exchanges in which the counter is turned on or off. -/
def Stem.switches : Stem → Bool
  | .command (.enableCounter _) => true
  | _ => false

theorem Stem.switches_eq_false {stem : Stem} (other : stem.ofCounter = false) : stem.switches = false := by
  unfold switches
  split
  · cases other
  · rfl

theorem not_b_toString {n : Int} : 'b' ∉ (toString n).toList := by
  intro member
  cases n with
  | ofNat n => exact absurd ((plainNumeral_toString n).digits _ member) (by decide)
  | negSucc n =>
    rw [toList_toString_neg] at member
    rcases List.mem_cons.mp member with same | digit
    · exact absurd same (by decide)
    · exact absurd ((plainNumeral_toString (n + 1)).digits _ digit) (by decide)

theorem not_b_letter (register : Register) : 'b' ∉ register.letter.toList := by
  cases register <;> decide

theorem not_switches_of_not_b {command : String} {line : List UInt8}
    (framed : Exchange.frame command = .ok line) (absent : 'b' ∉ command.toList) : ¬ Switches line := by
  obtain ⟨ascii, rfl⟩ := Exchange.of_frame framed
  intro switches
  have member : (98 : UInt8) ∈ (command.toList.map fun c => UInt8.ofNat c.toNat) ++ [10] :=
    switches.subset (by decide)
  rcases List.mem_append.mp member with inside | last
  · have among : Char.ofNat (98 : UInt8).toNat ∈
        (command.toList.map fun c => UInt8.ofNat c.toNat).map fun byte => Char.ofNat byte.toNat :=
      List.mem_map_of_mem inside
    rw [map_bytes ascii] at among
    exact absent among
  · exact absurd last (by decide)

theorem Command.not_b_read (channel : Int) (register : Register) :
    'b' ∉ (Command.read channel register).text.toList := by
  have parts : (Command.read channel register).text.toList =
      [':', 'r'] ++ (toString channel).toList ++ register.letter.toList := by
    change (":r" ++ toString channel ++ register.letter).toList = _
    rw [String.toList_append, String.toList_append]
    rfl
  rw [parts, List.mem_append, List.mem_append]
  rintro ((front | number) | letter)
  · exact absurd front (by decide)
  · exact not_b_toString number
  · exact not_b_letter register letter

theorem Command.not_b_set (channel : Int) (register : Register) (n : Int) :
    'b' ∉ (Command.set channel register n).text.toList := by
  have parts : (Command.set channel register n).text.toList =
      [':', 's'] ++ (toString channel).toList ++ register.letter.toList ++ (toString n).toList := by
    change (":s" ++ toString channel ++ register.letter ++ toString n).toList = _
    rw [String.toList_append, String.toList_append, String.toList_append]
    rfl
  rw [parts, List.mem_append, List.mem_append, List.mem_append]
  rintro (((front | number) | letter) | value)
  · exact absurd front (by decide)
  · exact not_b_toString number
  · exact not_b_letter register letter
  · exact not_b_toString value

/-- No other exchange writes a line that turns the counter on or off. -/
theorem Stem.Writes.not_switches {stem : Stem} {line : List UInt8} (writes : stem.Writes line)
    (other : stem.switches = false) : ¬ Switches line := by
  obtain ⟨command, covers, framed⟩ := writes
  have read : ∀ channel register, command = .read channel register → ¬ Switches line := by
    rintro channel register rfl
    exact not_switches_of_not_b framed (Command.not_b_read channel register)
  have set : ∀ channel register n, command = .set channel register n → ¬ Switches line := by
    rintro channel register n rfl
    exact not_switches_of_not_b framed (Command.not_b_set channel register n)
  cases covers with
  | setting => exact set _ _ _ rfl
  | waveform => exact read _ _ rfl
  | command =>
    cases command with
    | read channel register => exact read channel register rfl
    | set channel register n => exact set channel register n rfl
    | readModel =>
      cases framed
      decide
    | readOutput =>
      cases framed
      decide
    | setOutput enabled => cases enabled <;> cases framed <;> decide
    | selectFunction function => cases function <;> cases framed <;> decide
    | setGateTime gateTime => cases gateTime <;> cases framed <;> decide
    | enableCounter enabled => cases other
    | readCounter =>
      cases framed
      decide

theorem Begins.not_switches {port : Port} {plan : List Stem} {calls : List PortCall}
    (begun : Begins port plan calls) (others : ∀ stem ∈ plan, stem.switches = false) :
    ∀ line ∈ linesOn port calls, ¬ Switches line := by
  intro line member
  obtain ⟨stem, among, writes⟩ := begun.writes member
  exact writes.not_switches (others stem among)

theorem counterOn_switches : Switches counterOn := by decide

section
variable {port : Port} {plan : List Stem} {calls : List PortCall}

/-- The first line that is written is the one of the first exchange, and all others are for later
ones. -/
theorem Begins.lines_cons {stem : Stem} (begun : Begins port (stem :: plan) calls)
    (written : linesOn port calls ≠ []) :
    ∃ first late, linesOn port calls = first :: late ∧ stem.Writes first ∧
      ∀ line ∈ late, ∃ other ∈ plan, other.Writes line := by
  cases begun with
  | nil => exact absurd rfl written
  | failed made =>
    obtain ⟨⟨line, lines, writes⟩, _⟩ := made.linesOn
    exact ⟨line, [], lines, writes, List.forall_mem_nil _⟩
  | next made rest =>
    obtain ⟨⟨line, lines, writes⟩, _⟩ := made.linesOn
    refine ⟨line, _, ?_, writes, fun _ later => rest.writes later⟩
    rw [linesOn_append, lines]
    rfl

theorem counterOff_of_makes {accepted : Option (List UInt8)}
    (made : (Command.enableCounter false).transaction.Makes port calls accepted) :
    linesOn port calls = [counterOff] ∧ ∀ call ∈ calls, call.Reaches port := by
  obtain ⟨⟨line, lines, framed⟩, reaches⟩ := made.linesOn
  cases framed
  exact ⟨lines, reaches⟩

end

/-- A bench on which one port can be opened. It answers with these lines, one after the other, and takes
what is written to it like this. -/
def Bench.offering (lines : List String) (writes : List WriteAnswer) : Bench :=
  let reply (line : String) : ReadAnswer := .line (asciiBytes line.toList)
  { Bench.empty ⟨62135596800000000⟩ with openings := [.opens (lines.map reply) writes] }

/-- The answers of a bench on which every file can be appended to. -/
def Bench.recording (bench : Bench) : (request : Request) → request.Answer × Bench
  | .startAppending _ => (.ok false, bench)
  | .append .. => (.ok (), bench)
  | request => bench.answer request

namespace Acquisition

theorem pollingPlan_others (rounds : Nat) : ∀ stem ∈ pollingPlan rounds, stem.switches = false := by
  induction rounds with
  | zero => exact List.forall_mem_nil _
  | succ rounds ih =>
    rw [pollingPlan_succ, List.forall_mem_append]
    exact ⟨by simp [roundPlan, Stem.switches], ih⟩

/-- Once it has come to it, the counter is turned on by the first line and by no other. -/
theorem counting_lines {port : Port} {rounds : Nat} {calls : List PortCall}
    (begun : Begins port (countingPlan rounds) calls) (written : linesOn port calls ≠ []) :
    ∃ late, linesOn port calls = counterOn :: late ∧ ∀ line ∈ late, ¬ Switches line := by
  obtain ⟨first, late, lines, ⟨_, ⟨⟩, framed⟩, later⟩ := begun.lines_cons written
  cases framed
  refine ⟨late, lines, fun line member => ?_⟩
  obtain ⟨stem, among, writes⟩ := later line member
  refine writes.not_switches ?_
  rcases List.mem_cons.mp among with rfl | polled
  · rfl
  · exact pollingPlan_others rounds stem polled

section
variable {commandLine : List String} {arguments : Arguments} {port : Port} {channel : Int}
  {asked calls all before : List PortCall} {name : Given String} {ending : Outcome Unit}

theorem Course.not_opens (course : Course arguments port channel calls ending) :
    ∀ call ∈ calls, ¬ call.Opens := by
  have apart : ∀ calls : List PortCall, (∀ call ∈ calls, call.Reaches port) → ∀ call ∈ calls, ¬ call.Opens :=
    fun _ reaches call member => (reaches call member).not_opens
  have closing : ∀ call ∈ [PortCall.closed port], ¬ call.Opens :=
    List.forall_mem_singleton.mpr id
  cases course with
  | unprepared begun => exact List.forall_mem_append.mpr ⟨apart _ begun.reaches, closing⟩
  | stopped whole begun _ made _ =>
    simp only [List.forall_mem_append]
    exact ⟨⟨apart _ whole.begins.reaches, apart _ begun.reaches⟩,
      apart _ (counterOff_of_makes made).2, closing⟩
  | unfinished whole begun _ =>
    exact List.forall_mem_append.mpr ⟨apart _ whole.begins.reaches, apart _ begun.reaches⟩

/-- Where a generator is identified, it is the one that was obtained. -/
theorem Proceeds.of_identifies (proceeds : Proceeds commandLine all ending)
    (split : all = before ++ .opened name (.ok port) :: calls) (identifies : Identifies port calls) :
    ∃ arguments channel asked rest, calls = asked ++ rest ∧
      Arguments.ofCommandLine commandLine = .ok arguments ∧ Chosen arguments channel ∧
      Completes port [.command .readModel] asked ∧ Course arguments port channel rest ending := by
  cases proceeds with
  | nowhere vain =>
    have none := vain before name port calls split
    exact absurd identifies (List.append_nil calls ▸ none [])
  | @obtained arguments channel _ _ _ asked rest _ accepted chosen vain _ whole course =>
    have closed : ∀ call ∈ asked ++ rest, ¬ call.Opens := by
      refine List.forall_mem_append.mpr ⟨fun call member => ?_, course.not_opens⟩
      exact (whole.begins.reaches call member).not_opens
    obtain ⟨rfl, rfl⟩ := vain.unique closed identifies split
    exact ⟨arguments, channel, asked, rest, rfl, accepted, chosen, whole, course⟩

/-- The lines that are written on a port follow a plan, and the line that turns the counter off comes
after them if they turn it on. -/
structure Planned (plan : List Stem) (port : Port) (calls : List PortCall) (ending : Outcome Unit)
    (talk : List PortCall) : Prop where
  first : talk <+: calls
  begun : Begins port plan talk
  lines : List.Forall₂ Stem.Writes (plan.take (linesOn port talk).length) (linesOn port talk)
  unfinished : ending = .unfinished → linesOn port calls = linesOn port talk
  finished : ending ≠ .unfinished → linesOn port calls =
    linesOn port talk ++ if counterOn ∈ linesOn port talk then [counterOff] else []
  whole : ending = .result () → Completes port plan talk
  complete : ending = .result () → List.Forall₂ Stem.Writes plan (linesOn port talk)

theorem Planned.of_begins {plan : List Stem} {talk closing : List PortCall}
    (begun : Begins port plan talk)
    (unfinished : ending = .unfinished → linesOn port closing = [])
    (finished : ending ≠ .unfinished →
      linesOn port closing = if counterOn ∈ linesOn port talk then [counterOff] else [])
    (whole : ending = .result () → Completes port plan talk) :
    Planned plan port (talk ++ closing) ending talk where
  first := List.prefix_append talk closing
  begun := begun
  lines := begun.lines
  unfinished := fun stuck => by rw [linesOn_append, unfinished stuck, List.append_nil]
  finished := fun ended => by rw [linesOn_append, finished ended]
  whole := whole
  complete := fun ended => (whole ended).lines

/-- Nothing that comes before the start turns the counter on or off. -/
theorem setup_lines {waveform : Waveform} (opened : Completes port [.command .readModel] asked)
    (begun : Begins port (setupPlan arguments channel waveform) calls) :
    ∀ line ∈ linesOn port (asked ++ calls), ¬ Switches line := by
  refine (opened.append_begins begun).not_switches ?_
  exact List.forall_mem_cons.mpr ⟨rfl, fun stem among =>
    Stem.switches_eq_false (setupPlan_others arguments channel waveform stem among)⟩

theorem Course.planned (course : Course arguments port channel calls ending)
    (opened : Completes port [.command .readModel] asked) :
    ∃ waveform rounds talk, (ending = .result () → 0 < rounds) ∧
      Planned (plan arguments channel waveform rounds) port (asked ++ calls) ending talk := by
  cases course with
  | @unprepared waveform calls fault begun =>
    refine ⟨waveform, 0, asked ++ calls, nofun, ?_⟩
    rw [← List.append_assoc]
    refine .of_begins (opened.append_begins (begun.append _)) nofun (fun _ => ?_) nofun
    rw [if_neg fun on => setup_lines opened begun counterOn on counterOn_switches]
    rfl
  | @stopped waveform setup rounds calls stopping accepted outcome whole begun written made ended =>
    refine ⟨waveform, rounds, asked ++ (setup ++ calls), ?_, ?_⟩
    · intro ok
      exact (ended (Outcome.ofExcept_eq_result.mp ok)).2
    · rw [← List.append_assoc]
      refine .of_begins (opened.append_begins (whole.append_begins begun)) ?_ (fun _ => ?_) fun ok => ?_
      · cases outcome <;> nofun
      · obtain ⟨late, lines, _⟩ := counting_lines begun written
        have on : counterOn ∈ linesOn port (asked ++ (setup ++ calls)) := by
          rw [linesOn_append, linesOn_append, lines]
          exact List.mem_append_right _ List.mem_append_cons_self
        rw [if_pos on, linesOn_append, (counterOff_of_makes made).1]
        rfl
      · exact opened.append (whole.append (ended (Outcome.ofExcept_eq_result.mp ok)).1)
  | @unfinished waveform setup rounds calls whole begun written =>
    refine ⟨waveform, rounds, asked ++ (setup ++ calls), nofun, ?_⟩
    have planned := @Planned.of_begins port .unfinished _ _ []
      (opened.append_begins (whole.append_begins begun)) (fun _ => rfl) (absurd rfl) nofun
    rwa [List.append_nil] at planned

end

/-- The lines on the port of the generator that was obtained are those of the plan for the command line,
up to some exchange, and all of them where the acquisition ends well. -/
theorem lines_in_order {turns : Nat} {commandLine : List String} {steps : List Step}
    {ending : Outcome Unit} (run : (Acquisition.run turns commandLine).Runs steps ending) :
    (ending = .result () → ∃ before name port calls,
      portCalls steps = before ++ .opened name (.ok port) :: calls ∧ Identifies port calls) ∧
    ∀ before name port calls, portCalls steps = before ++ .opened name (.ok port) :: calls →
      Identifies port calls → ∃ arguments channel waveform rounds talk,
        Arguments.ofCommandLine commandLine = .ok arguments ∧ Chosen arguments channel ∧
        (ending = .result () → 0 < rounds) ∧
        Planned (plan arguments channel waveform rounds) port calls ending talk := by
  have proceeds := run_runs run
  refine ⟨?_, ?_⟩
  · rintro rfl
    generalize portCalls steps = all at proceeds ⊢
    cases proceeds with
    | obtained _ _ _ identifies _ _ =>
      exact ⟨_, _, _, _, rfl, identifies.append _⟩
  · intro before name port calls split identifies
    obtain ⟨arguments, channel, asked, rest, rfl, accepted, chosen, opened, course⟩ :=
      proceeds.of_identifies split identifies
    obtain ⟨waveform, rounds, talk, ended, planned⟩ := course.planned opened
    exact ⟨arguments, channel, waveform, rounds, talk, accepted, chosen, ended, planned⟩

/-- A single poll of a generator with an unknown waveform. -/
theorem lines_in_order_single :
    let commandLine := ["--limit-samples", "1"]
    let replies := [":r0c5225A000\n", ":r1w5\n", ":r1f100\n", ":r1y1\n", ":r1a500\n", "ok\n", "ok\n",
      "ok\n", ":r0e100\n", "ok\n", ":r0e100\n", "ok\n", ":r0e100\n", "ok\n", ":r0e100\n", "ok\n"]
    let steps := (Acquisition.run 3 commandLine).stepsIn Bench.recording (.offering replies [])
    (Acquisition.run 3 commandLine).Runs steps (.result ()) ∧
      ∃ before name port calls arguments channel waveform rounds talk,
        portCalls steps = before ++ .opened name (.ok port) :: calls ∧ Identifies port calls ∧
        Arguments.ofCommandLine commandLine = .ok arguments ∧ Chosen arguments channel ∧ 0 < rounds ∧
        Planned (plan arguments channel waveform rounds) port calls (.result ()) talk := by
  intro commandLine replies steps
  have ended : ((Acquisition.run 3 commandLine).runIn Bench.recording (.offering replies [])).1 =
      .result () := by decide +kernel
  have run := Program.runs_runIn Bench.recording (Acquisition.run 3 commandLine) (.offering replies [])
  rw [ended] at run
  obtain ⟨obtained, each⟩ := lines_in_order run
  obtain ⟨before, name, port, calls, split, identifies⟩ := obtained rfl
  obtain ⟨arguments, channel, waveform, rounds, talk, accepted, chosen, positive, planned⟩ :=
    each before name port calls split identifies
  exact ⟨run, before, name, port, calls, arguments, channel, waveform, rounds, talk, split, identifies,
    accepted, chosen, positive rfl, planned⟩

/-- However an acquisition ends, the port of the generator that was obtained is closed by the last call.
Before that the counter is not touched at all, or it is turned on once and turned off by the last line. -/
theorem cleans_up {turns : Nat} {commandLine : List String} {steps : List Step} {ending : Outcome Unit}
    (run : (Acquisition.run turns commandLine).Runs steps ending) (ended : ending ≠ .unfinished)
    {before calls : List PortCall} {name : Given String} {port : Port}
    (split : portCalls steps = before ++ .opened name (.ok port) :: calls)
    (identifies : Identifies port calls) :
    ∃ talk, calls = talk ++ [.closed port] ∧ (∀ call ∈ talk, call.Reaches port) ∧
      ((∀ line ∈ linesOn port calls, ¬ Switches line) ∧ (∃ fault, ending = .fault fault) ∨
        ∃ early late, linesOn port calls = early ++ counterOn :: late ++ [counterOff] ∧
          ∀ line ∈ early ++ late, ¬ Switches line) := by
  obtain ⟨arguments, channel, asked, rest, rfl, _, _, opened, course⟩ :=
    (run_runs run).of_identifies split identifies
  cases course with
  | @unprepared waveform calls fault begun =>
    refine ⟨asked ++ calls, (List.append_assoc _ _ _).symm, ?_, Or.inl ⟨?_, fault, rfl⟩⟩
    · exact List.forall_mem_append.mpr ⟨opened.begins.reaches, begun.reaches⟩
    · rw [← List.append_assoc, linesOn_append, show linesOn port [.closed port] = [] from rfl,
        List.append_nil]
      exact setup_lines opened begun
  | @stopped waveform setup rounds calls stopping accepted outcome whole begun written made _ =>
    obtain ⟨stoppedLines, stoppedReaches⟩ := counterOff_of_makes made
    obtain ⟨late, lines, others⟩ := counting_lines begun written
    refine ⟨asked ++ (setup ++ calls ++ stopping), ?_, ?_,
      Or.inr ⟨linesOn port (asked ++ setup), late, ?_, ?_⟩⟩
    · simp only [List.append_assoc]
    · simp only [List.forall_mem_append]
      exact ⟨opened.begins.reaches, ⟨whole.begins.reaches, begun.reaches⟩, stoppedReaches⟩
    · simp only [linesOn_append, lines, stoppedLines, List.append_assoc]
      rfl
    · exact List.forall_mem_append.mpr ⟨setup_lines opened whole.begins, others⟩
  | unfinished => exact absurd rfl ended

/-- The start fails half way, and then the line that turns the counter off cannot be written. -/
theorem cleans_up_half_started :
    let commandLine := ["--limit-samples", "1"]
    let replies := [":r0c5225A000\n", ":r1w5\n", ":r1f100\n", ":r1y1\n", ":r1a500\n", "ok\n", "no\n"]
    let writes := List.replicate 7 .complete ++ [.fault (.external .serial "gone")]
    let steps := (Acquisition.run 3 commandLine).stepsIn Bench.recording (.offering replies writes)
    let port : Port := ⟨0, "/dev/ttyUSB0"⟩
    let calls := (portCalls steps).tail
    (Acquisition.run 3 commandLine).Runs steps (.fault (.sendFailed ":s6b0" "gone")) ∧
      portCalls steps = [] ++ .opened (.value "/dev/ttyUSB0") (.ok port) :: calls ∧
      Identifies port calls ∧
      ∃ talk early late, calls = talk ++ [.closed port] ∧
        linesOn port calls = early ++ counterOn :: late ++ [counterOff] := by
  intro commandLine replies writes steps port calls
  have ended : ((Acquisition.run 3 commandLine).runIn Bench.recording (.offering replies writes)).1 =
      .fault (.sendFailed ":s6b0" "gone") := by decide +kernel
  have run := Program.runs_runIn Bench.recording (Acquisition.run 3 commandLine)
    (.offering replies writes)
  rw [ended] at run
  have split : portCalls steps = [] ++ .opened (.value "/dev/ttyUSB0") (.ok port) :: calls := by
    decide +kernel
  have asked : calls = [.wrote port (asciiBytes ":r0c\n".toList) (.ok 5),
      .read port (.ok (asciiBytes ":r0c5225A000\n".toList))] ++ calls.drop 2 := by decide +kernel
  have identifies : Identifies port calls := by
    rw [asked]
    exact identifies_bench port _
  obtain ⟨talk, closed, _, untouched | ⟨early, late, lines, _⟩⟩ :=
    cleans_up run nofun split identifies
  · have on : counterOn ∈ linesOn port calls := by decide +kernel
    exact absurd counterOn_switches (untouched.1 counterOn on)
  · exact ⟨run, split, identifies, talk, early, late, closed, lines⟩

end Acquisition

end SignalGenerator
