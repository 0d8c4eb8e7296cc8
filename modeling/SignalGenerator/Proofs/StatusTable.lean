import Mathlib.Data.List.Forall2
import SignalGenerator.Instrument.Generator
import SignalGenerator.Proofs.Appending
import SignalGenerator.Proofs.Dialogue
import SignalGenerator.Proofs.Readings

/-!
Statuses in one file. The names of the columns are those of the first status, and which settings a status has
depends on its waveform. Main statement: the file can be read by its columns exactly as long as no status has a
setting that the first one lacks.
-/

namespace SignalGenerator

namespace Row

/-- A record shows a row under the names of the columns: it has no field without a column, and under each name
stands what the row has under this name, or nothing. -/
def Shown (header record : List String) (row : Row) : Prop :=
  record.length ≤ header.length ∧ ∀ (position : Nat) name, header[position]? = some name →
    record[position]?.getD "" = ((row.lookup name).map Field.content).getD ""

/-- A table that shows some rows, record by record, after the names of its columns. -/
def ShownBy (rows : List Row) : List (List String) → Prop
  | [] => rows = []
  | header :: records => List.Forall₂ (Shown header) records rows

/-- A row is shown under the names that its own names begin. -/
theorem shown_of_prefix {header : List String} {row : Row} (distinct : header.Nodup)
    (begins : row.names <+: header) : Shown header row.contents row := by
  refine ⟨?_, fun position name => ?_⟩
  · have length := begins.length_le
    rwa [names, List.length_map, ← List.length_map (fun field : String × Field => field.2.content)] at length
  · induction row generalizing header position with
    | nil =>
      intro _
      rfl
    | cons field row ih =>
      obtain ⟨label, value⟩ := field
      obtain ⟨rest, rfl⟩ := begins
      obtain ⟨fresh, others⟩ := List.nodup_cons.mp distinct
      intro found
      cases position with
      | zero =>
        obtain rfl : label = name := Option.some.inj found
        rw [List.lookup_cons_self]
        rfl
      | succ position =>
        have among : name ∈ names row ++ rest := List.mem_of_getElem? found
        have apart : (name == label) = false := beq_eq_false_iff_ne.mpr fun same => fresh (same ▸ among)
        rw [List.lookup_cons, apart]
        exact ih others (List.prefix_append _ _) position found

theorem put_new {row : Row} {name : String} (new : name ∉ row.names) (field : Field) :
    row.put name field = row ++ [(name, field)] := by
  have none : ¬ (row.any fun field => decide (field.1 = name)) = true := by
    rw [List.any_eq_true]
    rintro ⟨field, member, same⟩
    exact new (List.mem_map.mpr ⟨field, member, of_decide_eq_true same⟩)
  rw [put, if_neg none]

/-- New names are put after those that are there. -/
theorem merge_append {row other : Row} (distinct : (row.names ++ other.names).Nodup) :
    row.merge other = row ++ other := by
  induction other generalizing row with
  | nil => exact (List.append_nil row).symm
  | cons field other ih =>
    obtain ⟨name, value⟩ := field
    have regroup : row.names ++ names ((name, value) :: other) =
        names (row ++ [(name, value)]) ++ names other := by
      rw [names, names, names, names, List.map_append, List.append_assoc]
      rfl
    have new : name ∉ row.names := fun old =>
      (List.nodup_append.mp distinct).2.2 name old name List.mem_cons_self rfl
    rw [regroup] at distinct
    calc row.merge ((name, value) :: other) = (row.put name value).merge other := rfl
      _ = (row ++ [(name, value)]).merge other := by rw [put_new new]
      _ = row ++ [(name, value)] ++ other := ih distinct
      _ = row ++ (name, value) :: other := List.append_assoc ..

end Row

/-- Every status of a channel lists the first ones of all settings. -/
theorem Adjustment.ofWaveform_prefix (waveform : Waveform) {channel : Int} (known : channel ∈ channels) :
    ofWaveform waveform channel <+: all := by
  have each : ∀ channel ∈ channels, ofWaveform waveform channel <+: all := by
    cases waveform <;> decide
  exact each channel known

namespace ChannelStatus

/-- The settings that were read. -/
def settings (status : ChannelStatus) : List Adjustment := status.readings.map (·.1)

theorem readEach_settings {port : Port} {channel : Int} {adjustments : List Adjustment} {steps : List Step}
    {readings : List (Adjustment × Binary64)}
    (run : (readEach port channel adjustments).Runs steps (.result readings)) :
    readings.map (·.1) = adjustments := by
  induction adjustments generalizing steps readings with
  | nil =>
    cases run.of_result.2
    rfl
  | cons adjustment rest ih =>
    obtain ⟨value, _, _, _, _, others⟩ := run.of_bind_result
    obtain ⟨later, _, _, _, begun, ended⟩ := others.of_bind_result
    cases ended.of_result.2
    rw [List.map_cons, ih begun]

/-- A generator can be read as having this status on a channel. -/
def ReadFrom (channel : Int) (status : ChannelStatus) : Prop :=
  ∃ (generator : Generator) (steps : List Step),
    (generator.readStatus channel).Runs steps (.result status)

variable {channel : Int} {status : ChannelStatus}

/-- The settings of a status are those of its waveform. -/
theorem ReadFrom.settings_eq (read : ReadFrom channel status) :
    channel ∈ channels ∧ status.settings = Adjustment.ofWaveform status.waveform channel := by
  obtain ⟨generator, steps, run⟩ := read
  rcases Generator.onChannel_runs run with ⟨known, run⟩ | ⟨_, _, same⟩
  · obtain ⟨waveform, _, _, _, _, rest⟩ := run.of_bind_result
    obtain ⟨readings, _, _, _, begun, ended⟩ := rest.of_bind_result
    cases ended.of_result.2
    exact ⟨known, readEach_settings begun⟩
  · cases same

end ChannelStatus

/-- A status that was read from a channel, to be recorded. -/
structure LoggedStatus where
  channel : Int
  status : ChannelStatus
  read : status.ReadFrom channel

namespace LoggedStatus

/-- The row that is written at some time. -/
def row (logged : LoggedStatus) (time : Instant) : Row :=
  [("timestamp", .instant time), ("channel", .integer logged.channel)] ++ Recording.statusRow logged.status

/-- Records the status. -/
def record (path : String) (logged : LoggedStatus) : Program Unit :=
  Recording.settings path logged.channel (Recording.statusRow logged.status)

/-- The names of the columns for a status with all settings. -/
def columns : List String := ["timestamp", "channel", "waveform"] ++ Adjustment.all.map Adjustment.label

theorem columns_nodup : columns.Nodup := by decide

variable (logged : LoggedStatus)

theorem names_row (time : Instant) : (logged.row time).names =
    ["timestamp", "channel", "waveform"] ++ logged.status.settings.map Adjustment.label := by
  have labels : (Recording.statusRow logged.status).names =
      "waveform" :: logged.status.settings.map Adjustment.label := by
    rw [Recording.statusRow, Row.names, List.map_cons, List.map_map, ChannelStatus.settings, List.map_map]
    rfl
  have parts : (logged.row time).names = ["timestamp", "channel"] ++ (Recording.statusRow logged.status).names :=
    List.map_append
  rw [parts, labels]
  rfl

theorem settings_prefix : logged.status.settings <+: Adjustment.all := by
  obtain ⟨known, same⟩ := logged.read.settings_eq
  rw [same]
  exact Adjustment.ofWaveform_prefix _ known

theorem names_prefix (time : Instant) : (logged.row time).names <+: columns := by
  rw [names_row, columns]
  exact List.prefix_append_right_inj _ |>.mpr (logged.settings_prefix.map _)

theorem record_eq (path : String) :
    logged.record path = Recording.stamped path logged.row fun _ => () := by
  have merged : ∀ time : Instant, Row.merge [("timestamp", .instant time), ("channel", .integer logged.channel)]
      (Recording.statusRow logged.status) = logged.row time := by
    intro time
    refine Row.merge_append (columns_nodup.sublist ?_)
    have names := (logged.names_prefix time).sublist
    rwa [row, Row.names, List.map_append] at names
  rw [record, Recording.settings_eq]
  exact congrArg (fun rows => Recording.stamped path rows fun _ => ()) (funext merged)

/-- One status has all settings of another one exactly when the other one does not have more of them. -/
theorem settings_subset_iff (first : LoggedStatus) :
    logged.status.settings ⊆ first.status.settings ↔ logged.status.settings <+: first.status.settings := by
  refine ⟨fun subset => ?_, List.IsPrefix.subset⟩
  have distinct : logged.status.settings.Nodup :=
    List.Nodup.sublist logged.settings_prefix.sublist (by decide)
  exact List.prefix_of_prefix_length_le logged.settings_prefix first.settings_prefix
    (distinct.length_le_of_subset subset)

/-- A status is shown in the columns of another one exactly when this one has all of its settings. -/
theorem shown_iff (first : LoggedStatus) (start time : Instant) :
    Row.Shown (first.row start).names (logged.row time).contents (logged.row time) ↔
      logged.status.settings ⊆ first.status.settings := by
  have distinct : (first.row start).names.Nodup := columns_nodup.sublist (first.names_prefix start).sublist
  rw [settings_subset_iff]
  constructor
  · rintro ⟨short, _⟩
    have counted : (logged.row time).names.length ≤ (first.row start).names.length := by
      rwa [Row.names, List.length_map, ← List.length_map (fun field : String × Field => field.2.content)]
    rw [names_row, names_row, List.length_append, List.length_append, List.length_map, List.length_map,
      Nat.add_le_add_iff_left] at counted
    exact List.prefix_of_prefix_length_le logged.settings_prefix first.settings_prefix counted
  · intro begins
    refine Row.shown_of_prefix distinct ?_
    rw [names_row, names_row, List.prefix_append_right_inj]
    exact begins.map _

end LoggedStatus

theorem forall_mem_zipWith {α β γ : Type} {row : α → β → γ} {shown : γ → Prop} {holds : α → Prop}
    (each : ∀ a b, shown (row a b) ↔ holds a) {firsts : List α} {seconds : List β}
    (length : seconds.length = firsts.length) :
    (∀ c ∈ List.zipWith row firsts seconds, shown c) ↔ ∀ a ∈ firsts, holds a := by
  induction firsts generalizing seconds with
  | nil => simp
  | cons a firsts ih =>
    obtain ⟨b, rest, rfl⟩ := List.exists_cons_of_length_eq_add_one length
    rw [List.zipWith_cons_cons, List.forall_mem_cons, List.forall_mem_cons, each, ih (Nat.succ.inj length)]

/-- The rows of a table are shown by it exactly when each of them is shown in the columns of the first one. -/
theorem Row.shownBy_table (row : Row) (rows : List Row) :
    ShownBy (row :: rows) (table (row :: rows)) ↔
      ∀ other ∈ row :: rows, Shown row.names other.contents other := by
  rw [table, ShownBy, List.forall₂_map_left_iff, List.forall₂_same]

section
variable {σ : Type} {answer : σ → (request : Request) → request.Answer × σ} {path : String}
  {content : σ → String} {works : σ → Prop} {state : σ}

/-- Every status gets its row, after the names of the columns of the first one. -/
theorem LoggedStatus.recorded_table (keeps : KeepsFile answer path content works) (ready : works state)
    (empty : content state = "") (logs : List LoggedStatus) :
    let recorded := Program.runAll answer (logs.map (·.record path)) state
    ∃ times : List Instant, times.length = logs.length ∧
      recorded.1 = List.replicate logs.length (.result ()) ∧
      Table.records (content recorded.2) = Row.table (List.zipWith row logs times) := by
  have programs : logs.map (·.record path) =
      logs.map fun logged => Recording.stamped path logged.row fun _ => () :=
    List.map_congr_left fun logged _ => logged.record_eq path
  obtain ⟨times, last, run, length, _, grown⟩ :=
    Recording.stamped_runAll keeps ready row (fun _ => ()) logs
  have count : (List.zip logs times).length = logs.length := by rw [List.length_zip, length, Nat.min_self]
  have nonempty : ∀ written ∈ List.zipWith row logs times, written ≠ [] := by
    refine forall_zipWith (fun logged time => ?_) logs times
    exact List.cons_ne_nil _ _
  rw [programs, run]
  refine ⟨times, length, ?_, ?_⟩
  · rw [← List.map_uncurry_zip_eq_zipWith, ← count]
    exact List.map_const' ..
  · rw [← Row.records_table nonempty, grown, empty, String.empty_append]
    rfl

/-- Statuses are recorded in a file that is empty at first. The table in it has the columns of the first status, and
it shows every status by these columns, with nothing beside them, exactly when no status has a setting that the
first one lacks. -/
theorem statuses_shown_iff (keeps : KeepsFile answer path content works) (ready : works state)
    (empty : content state = "") (logs : List LoggedStatus) :
    let recorded := Program.runAll answer (logs.map (·.record path)) state
    let table := Table.records (content recorded.2)
    ∃ times : List Instant, times.length = logs.length ∧
      recorded.1 = List.replicate logs.length (.result ()) ∧
      table = Row.table (List.zipWith LoggedStatus.row logs times) ∧
      (Row.ShownBy (List.zipWith LoggedStatus.row logs times) table ↔
        ∀ first ∈ logs.head?, ∀ logged ∈ logs, logged.status.settings ⊆ first.status.settings) := by
  obtain ⟨times, length, results, same⟩ := LoggedStatus.recorded_table keeps ready empty logs
  refine ⟨times, length, results, same, ?_⟩
  rw [same]
  cases logs with
  | nil => exact ⟨fun _ _ none => (by cases none), fun _ => rfl⟩
  | cons first logs =>
    obtain ⟨start, times, rfl⟩ := List.exists_cons_of_length_eq_add_one length
    rw [List.zipWith_cons_cons, Row.shownBy_table, ← List.zipWith_cons_cons,
      forall_mem_zipWith (fun logged time => logged.shown_iff first start time) length]
    exact ⟨fun all _ head => Option.some.inj head ▸ all, fun all => all first rfl⟩

end

namespace LoggedStatus

/-- What a channel is read as on a bench. -/
def ofBench {generator : Generator} {channel : Int} {bench : Bench} {status : ChannelStatus}
    (ended : ((generator.readStatus channel).runOn bench).1 = .result status) : LoggedStatus :=
  ⟨channel, status, generator, _, ended ▸ (generator.readStatus channel).runs_runOn bench⟩

/-- A generator whose name does not matter. -/
def someGenerator : Generator := ⟨⟨0, "bench"⟩, ⟨"MHS-25A", .integer 25000000⟩⟩

/-- A sine of 1000 Hz on the first channel. -/
def sine : LoggedStatus := @ofBench someGenerator 1
  (.answering [":r1w0\n", ":r1f100000\n", ":r1y1\n", ":r1a500\n", ":r1y1\n", ":r1a500\n", ":r1o120\n", ":r1p90\n"])
  ⟨.sine, [(.frequency, .ofInt 1000), (.amplitude, .ofInt 5), (.offset, .zero), (.phase, .ofInt 90)]⟩
  (by decide +kernel)

/-- A square of 2000 Hz on the second channel. -/
def square : LoggedStatus := @ofBench someGenerator 2
  (.answering [":r2w1\n", ":r2f200000\n", ":r2y1\n", ":r2a100\n", ":r2y1\n", ":r2a100\n", ":r2o120\n", ":r2p0\n",
    ":r2d250\n"])
  ⟨.square, [(.frequency, .ofInt 2000), (.amplitude, .ofInt 1), (.offset, .zero), (.phase, .zero),
    (.dutyCycle, .ofInt 25)]⟩
  (by decide +kernel)

end LoggedStatus

section
open LoggedStatus (sine square)

theorem bench_keeps : KeepsFile Bench.answer "samples.csv" (·.content (.file "samples.csv"))
    fun bench => ∃ time, bench.now = .ok time := Bench.keepsFile Destination.ofPath_samples

/-- With the square first there is a column for everything. -/
theorem statuses_shown_iff_square :
    let logs := [square, sine]
    let file := (Program.runAll Bench.answer (logs.map (·.record "samples.csv")) (Bench.empty ⟨0⟩)).2.content
      (.file "samples.csv")
    ∃ times, times.length = 2 ∧ Row.ShownBy (List.zipWith LoggedStatus.row logs times) (Table.records file) := by
  intro logs file
  have ready : ∃ time, (Bench.empty ⟨0⟩).now = .ok time := ⟨⟨0⟩, by decide +kernel⟩
  obtain ⟨times, length, _, _, shown⟩ := statuses_shown_iff bench_keeps ready (by decide +kernel) logs
  refine ⟨times, length, shown.mpr ?_⟩
  decide +kernel

/-- With the sine first there is no column for the duty cycle of the square. -/
theorem status_unshown :
    let logs := [sine, square]
    let file := (Program.runAll Bench.answer (logs.map (·.record "samples.csv")) (Bench.empty ⟨0⟩)).2.content
      (.file "samples.csv")
    ∃ header records record, Table.records file = header :: records ∧ record ∈ records ∧
      header.length < record.length := by
  intro logs file
  have ready : ∃ time, (Bench.empty ⟨0⟩).now = .ok time := ⟨⟨0⟩, by decide +kernel⟩
  obtain ⟨times, length, _, table⟩ := LoggedStatus.recorded_table bench_keeps ready (by decide +kernel) logs
  obtain ⟨first, times, rfl⟩ := List.exists_cons_of_length_eq_add_one length
  obtain ⟨second, times, rfl⟩ := List.exists_cons_of_length_eq_add_one (Nat.succ.inj length)
  refine ⟨_, _, (square.row second).contents, table, ?_, ?_⟩
  · exact List.mem_cons_of_mem _ List.mem_cons_self
  · have header : (sine.row first).names.length = 7 := rfl
    have record : (square.row second).contents.length = 8 := rfl
    rw [header, record]
    decide

end

end SignalGenerator
