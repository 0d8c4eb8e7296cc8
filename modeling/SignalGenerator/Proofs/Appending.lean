import SignalGenerator.Proofs.Device
import SignalGenerator.Proofs.Tables
import SignalGenerator.Record.Recording

/-!
Rows that are appended to a file, call after call. Each call opens the file again and looks whether it is empty,
so that the names of the columns are written by the first call that finds it so, and by no other one.
-/

namespace SignalGenerator

/-- Surroundings in which a path leads to a file. While they work, the clock has a time, the file tells whether
it is empty, and it keeps what is appended to it. -/
structure KeepsFile {σ : Type} (answer : σ → (request : Request) → request.Answer × σ) (path : String)
    (content : σ → String) (works : σ → Prop) : Prop where
  tells : ∀ {state}, works state → ∃ time later, answer state .now = (.ok time, later) ∧ works later ∧
    content later = content state
  opens : ∀ {state}, works state → ∃ later,
    answer state (.startAppending path) = (.ok (content state).isEmpty, later) ∧ works later ∧
      content later = content state
  takes : ∀ {state} text, works state → ∃ later, answer state (.append path text) = (.ok (), later) ∧
    works later ∧ content later = content state ++ text

/-- Runs programs one after the other. -/
def Program.runAll {σ α : Type} (answer : σ → (request : Request) → request.Answer × σ) :
    List (Program α) → σ → List (Outcome α) × σ
  | [], state => ([], state)
  | program :: rest, state =>
    let (ending, after) := program.runIn answer state
    let (endings, last) := runAll answer rest after
    (ending :: endings, last)

theorem Program.runAll_append {σ α : Type} {answer : σ → (request : Request) → request.Answer × σ}
    (first rest : List (Program α)) (state : σ) :
    (runAll answer (first ++ rest) state).2 = (runAll answer rest (runAll answer first state).2).2 := by
  induction first generalizing state with
  | nil => rfl
  | cons program first ih => exact ih (program.runIn answer state).2

/-- Going on in the surroundings that a first program has left. -/
theorem Program.runIn_bind {σ α β : Type} {answer : σ → (request : Request) → request.Answer × σ}
    {program : Program α} {next : α → Program β} {state later : σ} {value : α}
    (first : program.runIn answer state = (.result value, later)) :
    (program.bind next).runIn answer state = (next value).runIn answer later := by
  induction program generalizing state with
  | result given =>
    cases first
    rfl
  | fail => cases first
  | unfinished => cases first
  | ask request answered ih => exact ih _ first

theorem Program.runIn_perform {σ α : Type} {answer : σ → (request : Request) → request.Answer × σ}
    {request : Request} {judge : request.Answer → Except Fault α} {state later : σ}
    {reply : request.Answer} {value : α} (given : answer state request = (reply, later))
    (judged : judge reply = .ok value) :
    (Program.perform request judge).runIn answer state = (.result value, later) := by
  have opened : (Program.perform request judge).runIn answer state =
      (Program.ofExcept (judge (answer state request).1)).runIn answer (answer state request).2 := rfl
  rw [opened, given, judged]
  rfl

namespace Row

/-- The names of the columns of a row. -/
def names (row : Row) : List String := row.map (·.1)

/-- The contents of the cells of a row. -/
def contents (row : Row) : List String := row.map fun field => field.2.content

/-- The rows of a file after the names of the columns, which are those of the first row. -/
def table : List Row → List (List String)
  | [] => []
  | row :: rest => row.names :: (row :: rest).map contents

end Row

theorem isEmpty_eq (text : String) : text.isEmpty = decide (text = "") := by
  rw [String.isEmpty, Bool.eq_iff_iff, beq_iff_eq, decide_eq_true_iff, String.utf8ByteSize_eq_zero_iff]

theorem text_append (first rest : List (List String)) :
    Table.text (first ++ rest) = Table.text first ++ Table.text rest := by
  rw [Table.text, List.map_append, String.join_append]
  rfl

namespace Row

/-- What a row adds to a file, as records. -/
theorem entry_eq (isEmpty : Bool) (row : Row) :
    row.entry isEmpty = Table.text (if isEmpty then table [row] else [row.contents]) := by
  cases isEmpty with
  | true => rfl
  | false => rfl

theorem entry_nonempty (isEmpty : Bool) (row : Row) : row.entry isEmpty ≠ "" := by
  intro none
  have ends : '\n' ∈ (row.entry isEmpty).toList := by
    rw [entry, String.toList_append, Table.toList_line]
    exact List.mem_append_right _ (List.mem_append_right _ (List.mem_singleton_self _))
  rw [none] at ends
  cases ends

end Row

/-- What some rows add to a file, as records: only the first row that finds the file empty is preceded by the
names of the columns. -/
def Row.added (isEmpty : Bool) (rows : List Row) : List (List String) :=
  if isEmpty then table rows else rows.map contents

theorem forall_zipWith {α β γ : Type} {make : α → β → γ} {holds : γ → Prop} (each : ∀ a b, holds (make a b))
    (firsts : List α) (seconds : List β) : ∀ c ∈ List.zipWith make firsts seconds, holds c := by
  intro c member
  rw [← List.map_uncurry_zip_eq_zipWith] at member
  obtain ⟨⟨a, b⟩, _, rfl⟩ := List.mem_map.mp member
  exact each a b

/-- The table of some rows is read back. -/
theorem Row.records_table {rows : List Row} (nonempty : ∀ row ∈ rows, row ≠ []) :
    Table.records (Table.text (table rows)) = table rows := by
  have filled : ∀ row ∈ rows, contents row ≠ [] :=
    fun row member none => nonempty row member (List.map_eq_nil_iff.mp none)
  refine Table.records_text fun record member => ?_
  cases rows with
  | nil => cases member
  | cons row rows =>
    rcases List.mem_cons.mp member with rfl | member
    · exact fun none => nonempty row List.mem_cons_self (List.map_eq_nil_iff.mp none)
    · obtain ⟨other, among, rfl⟩ := List.mem_map.mp member
      exact filled other among

theorem Row.added_cons (isEmpty : Bool) (row : Row) (rows : List Row) :
    added isEmpty (row :: rows) = (if isEmpty then table [row] else [row.contents]) ++ added false rows := by
  cases isEmpty <;> rfl

namespace Recording

/-- Appends a row with the time of the clock in it. -/
def stamped {α : Type} (path : String) (row : Instant → Row) (give : Row → α) : Program α := do
  let time ← Program.now
  appendRow path (row time)
  return give (row time)

theorem measurement_eq (path quantity : String) (value : Field) (unit : String) :
    measurement path quantity value unit = stamped path (fun time =>
      [("timestamp", .instant time), ("quantity", .text quantity), ("value", value), ("unit", .text unit)])
      id := rfl

theorem settings_eq (path : String) (channel : Int) (given : Row) :
    settings path channel given = stamped path (fun time =>
      Row.merge [("timestamp", .instant time), ("channel", .integer channel)] given) fun _ => () := by
  have ends : ∀ row, (appendRow path row).bind .result = appendRow path row :=
    fun row => Program.bind_result _
  exact congrArg Program.now.bind (funext fun time => (ends _).symm)

section
variable {σ α ι : Type} {answer : σ → (request : Request) → request.Answer × σ} {path : String}
  {content : σ → String} {works : σ → Prop} {state : σ} (keeps : KeepsFile answer path content works)
  (ready : works state)

include keeps ready

theorem appendRow_runIn (row : Row) : ∃ later,
    (appendRow path row).runIn answer state = (.result (), later) ∧ works later ∧
      content later = content state ++ row.entry (content state).isEmpty := by
  obtain ⟨opened, opens, working, same⟩ := keeps.opens ready
  obtain ⟨later, takes, still, grown⟩ := keeps.takes (row.entry (content state).isEmpty) working
  rw [same] at grown
  refine ⟨later, ?_, still, grown⟩
  have asked : (Program.startAppending path).runIn answer state = (.result (content state).isEmpty, opened) :=
    Program.runIn_perform opens rfl
  have appended : (Program.append path (row.entry (content state).isEmpty)).runIn answer opened =
      (.result (), later) := Program.runIn_perform takes rfl
  exact (Program.runIn_bind asked).trans appended

/-- A call gives its result, and the row at the time of the call is in the file. -/
theorem stamped_runIn (row : Instant → Row) (give : Row → α) : ∃ time later,
    (stamped path row give).runIn answer state = (.result (give (row time)), later) ∧ works later ∧
      content later = content state ++ (row time).entry (content state).isEmpty := by
  obtain ⟨time, started, tells, working, same⟩ := keeps.tells ready
  obtain ⟨later, appended, still, grown⟩ := appendRow_runIn keeps working (row time)
  rw [same] at grown
  refine ⟨time, later, ?_, still, grown⟩
  have asked : Program.now.runIn answer state = (.result time, started) :=
    Program.runIn_perform tells rfl
  exact (Program.runIn_bind asked).trans (Program.runIn_bind appended)

/-- A sequence of calls gives all their results, and all their rows are in the file, in order. -/
theorem stamped_runAll (row : ι → Instant → Row) (give : Row → α) (calls : List ι) : ∃ times last,
    Program.runAll answer (calls.map fun call => stamped path (row call) give) state =
        (List.zipWith (fun call time => .result (give (row call time))) calls times, last) ∧
      times.length = calls.length ∧ works last ∧
      content last = content state ++
        Table.text (Row.added (content state).isEmpty (List.zipWith row calls times)) := by
  induction calls generalizing state with
  | nil =>
    refine ⟨[], state, rfl, rfl, ready, ?_⟩
    have nothing : Table.text (Row.added (content state).isEmpty []) = "" := by
      cases (content state).isEmpty <;> rfl
    rw [List.zipWith_nil_left, nothing, String.append_empty]
  | cons call calls ih =>
    obtain ⟨time, later, first, working, grown⟩ := stamped_runIn keeps ready (row call) give
    obtain ⟨times, last, others, length, still, whole⟩ := ih working
    have filled : (content later).isEmpty = false := by
      rw [grown, isEmpty_eq, decide_eq_false_iff_not, String.append_eq_empty_iff, not_and]
      exact fun _ => Row.entry_nonempty _ _
    refine ⟨time :: times, last, ?_, congrArg (· + 1) length, still, ?_⟩
    · rw [List.map_cons, Program.runAll, first]
      dsimp only
      rw [others, List.zipWith_cons_cons]
    · rw [whole, filled, grown, List.zipWith_cons_cons, Row.added_cons, text_append, Row.entry_eq,
        String.append_assoc]

end

end Recording

/-- The cell for a number. -/
def Number.field : Number → Field
  | .integer n => .integer n
  | .real x => .real x

/-- A value to be recorded, with what it is and its unit. -/
structure Measured where
  quantity : String
  value : Number
  unit : String

namespace Measured

/-- The row that is written at some time. -/
def row (measured : Measured) (time : Instant) : Row :=
  [("timestamp", .instant time), ("quantity", .text measured.quantity), ("value", measured.value.field),
    ("unit", .text measured.unit)]

/-- The text of the value, and nothing for what is not a number. -/
def valueText (measured : Measured) : String :=
  match measured.value with
  | .real .nan => ""
  | value => value.text

/-- The fields of the record of a row. -/
def fields (measured : Measured) (time : Instant) : List String :=
  [time.tableText, measured.quantity, measured.valueText, measured.unit]

theorem contents_row (measured : Measured) (time : Instant) :
    (measured.row time).contents = measured.fields time := by
  have shown : measured.value.field.content = measured.valueText := by
    obtain ⟨quantity, value, unit⟩ := measured
    rcases value with n | (_ | _ | _) <;> rfl
  rw [fields, ← shown]
  rfl

/-- Records the value. -/
def record (path : String) (measured : Measured) : Program Row :=
  Recording.measurement path measured.quantity measured.value.field measured.unit

theorem record_eq (path : String) (measured : Measured) :
    measured.record path = Recording.stamped path measured.row id := Recording.measurement_eq ..

theorem contents_rows (calls : List Measured) (times : List Instant) :
    (List.zipWith row calls times).map Row.contents = List.zipWith fields calls times := by
  rw [List.map_zipWith]
  exact congrArg (fun each => List.zipWith each calls times) (funext fun call => funext call.contents_row)

/-- The table of the rows of some calls. -/
theorem table_rows {calls : List Measured} {times : List Instant} (length : times.length = calls.length)
    (some : calls ≠ []) : Row.table (List.zipWith row calls times) =
      ["timestamp", "quantity", "value", "unit"] :: List.zipWith fields calls times := by
  obtain ⟨call, others, rfl⟩ := List.exists_cons_of_ne_nil some
  obtain ⟨time, later, rfl⟩ := List.exists_cons_of_length_eq_add_one length
  rw [← contents_rows]
  rfl

end Measured

namespace Bench

theorem lookup_map {files : List (String × String)} {name : String} (text : String)
    (known : (files.lookup name).isSome = true) :
    (files.map fun file => if file.1 = name then (name, text) else file).lookup name = some text := by
  induction files with
  | nil => cases known
  | cons file files ih =>
    obtain ⟨other, content⟩ := file
    by_cases same : other = name
    · subst same
      simp
    · rw [List.map_cons, if_neg same]
      have apart : (name == other) = false := beq_eq_false_iff_ne.mpr (Ne.symm same)
      rw [List.lookup_cons, apart] at known ⊢
      exact ih known

/-- The files after one of them was given a content. -/
def replaced (files : List (String × String)) (name text : String) : List (String × String) :=
  if (files.lookup name).isSome then files.map fun file => if file.1 = name then (name, text) else file
  else files ++ [(name, text)]

theorem lookup_replaced (files : List (String × String)) (name text : String) :
    (replaced files name text).lookup name = some text := by
  unfold replaced
  by_cases known : (files.lookup name).isSome = true
  · rw [if_pos known]
    exact lookup_map text known
  · have missing : files.lookup name = none := Option.not_isSome_iff_eq_none.mp known
    rw [if_neg known, List.lookup_append, missing, Option.none_or, List.lookup_cons_self]

theorem replace_file (bench : Bench) (name text : String) :
    bench.replace (.file name) text = { bench with files := replaced bench.files name text } := by
  unfold replace replaced
  dsimp only
  split <;> rfl

/-- A file has the content that it was given last. -/
theorem content_replace (bench : Bench) (name text : String) :
    (bench.replace (.file name) text).content (.file name) = text := by
  rw [replace_file, content, lookup_replaced]
  rfl

theorem now_replace (bench : Bench) (name text : String) :
    (bench.replace (.file name) text).now = bench.now := by
  rw [replace_file]
  rfl

/-- A bench keeps the file that a path leads to, as long as its clock goes. -/
theorem keepsFile {path name : String}
    (leads : ∀ names, Destination.ofPath names path = .ok (.file name)) :
    KeepsFile Bench.answer path (·.content (.file name)) fun bench => ∃ time, bench.now = .ok time := by
  have going : ∀ {bench : Bench} text, (∃ time, bench.now = .ok time) →
      ∃ time, (bench.replace (.file name) text).now = .ok time := by
    rintro bench text ⟨time, shown⟩
    exact ⟨time, (now_replace bench name text).trans shown⟩
  constructor
  case tells =>
    rintro bench ⟨time, shown⟩
    exact ⟨time, bench, congrArg (·, bench) shown, ⟨time, shown⟩, rfl⟩
  case opens =>
    intro bench works
    have opened : bench.startAppending path = (.ok (bench.content (.file name)).isEmpty,
        bench.replace (.file name) (bench.content (.file name))) := by
      rw [startAppending, withFile, leads]
    exact ⟨_, opened, going _ works, content_replace bench name _⟩
  case takes =>
    intro bench text works
    have taken : bench.append path text =
        (.ok (), bench.replace (.file name) (bench.content (.file name) ++ text)) := by
      rw [append, withFile, leads]
    exact ⟨_, taken, going _ works, content_replace bench name _⟩

end Bench

/-- A path of one name leads to the file of this name. -/
theorem Destination.ofPath_samples (names : List String) : ofPath names "samples.csv" = .ok (.file "samples.csv") := by
  have whole : "samples.csv".splitOn "/" = ["samples.csv"] := by
    rw [String.splitOn, if_neg (by decide)]
    simp +decide [String.splitOnAux]
  have zero : ("samples.csv".toList.any (·.toNat = 0)) = false := by decide
  have short : ¬ longestPath < "samples.csv".utf8ByteSize := by decide
  have inside : decide ("samples.csv".toList.head? = some '/') = false := by decide
  rw [ofPath, zero, if_neg Bool.false_ne_true, if_neg (by decide), if_neg short, whole, inside]
  simp +decide [follow]

/-- Measurements are appended to a file. Every call gives back its row, and leaves what was in the file as it was.
A file that was empty has one record with the names of the columns, and then one for each call, in order, with the
quantity, the value and the unit as they were given, whatever characters are in them. A file that was not empty gets
the records of the calls only. -/
theorem measurements_recorded {σ : Type} {answer : σ → (request : Request) → request.Answer × σ}
    {path : String} {content : σ → String} {works : σ → Prop} {state : σ}
    (keeps : KeepsFile answer path content works) (ready : works state) (calls : List Measured) :
    let recorded := fun calls : List Measured => Program.runAll answer (calls.map (·.record path)) state
    let file := fun calls => content (recorded calls).2
    (∀ call, (file calls).toList <+: (file (calls ++ [call])).toList) ∧
      ∃ times : List Instant, times.length = calls.length ∧
        (recorded calls).1 = List.zipWith (fun call time => .result (call.row time)) calls times ∧
        (content state = "" → calls ≠ [] → Table.records (file calls) =
          ["timestamp", "quantity", "value", "unit"] :: List.zipWith Measured.fields calls times) ∧
        (content state ≠ "" →
          file calls = content state ++ Table.text (List.zipWith Measured.fields calls times)) := by
  intro recorded file
  have programs : ∀ calls : List Measured, calls.map (·.record path) =
      calls.map fun call => Recording.stamped path call.row id :=
    fun calls => List.map_congr_left fun call _ => call.record_eq path
  obtain ⟨times, last, run, length, working, grown⟩ := Recording.stamped_runAll keeps ready Measured.row id calls
  rw [← programs calls] at run
  have ended : recorded calls = _ := run
  refine ⟨fun call => ?_, times, length, congrArg Prod.fst ended, ?_, ?_⟩
  · obtain ⟨time, later, next, _, longer⟩ := Recording.stamped_runIn keeps working call.row id
    have further : file (calls ++ [call]) = content later := by
      have onward : (recorded (calls ++ [call])).2 = ((call.record path).runIn answer (recorded calls).2).2 := by
        change (Program.runAll answer ((calls ++ [call]).map _) state).2 = _
        rw [List.map_append, Program.runAll_append]
        rfl
      change content (recorded (calls ++ [call])).2 = _
      rw [onward, ended, call.record_eq, next]
    have before : file calls = content last := congrArg (fun run => content run.2) ended
    rw [further, before, longer, String.toList_append]
    exact List.prefix_append _ _
  · intro empty some
    have whole : file calls = Table.text (Row.table (List.zipWith Measured.row calls times)) := by
      change content (recorded calls).2 = _
      rw [ended, grown, empty, String.empty_append]
      rfl
    have nonempty : ∀ row ∈ List.zipWith Measured.row calls times, row ≠ [] := by
      refine forall_zipWith (fun call time => ?_) calls times
      exact List.cons_ne_nil _ _
    rw [whole, Row.records_table nonempty, Measured.table_rows length some]
  · intro filled
    have kept : (content state).isEmpty = false := by rw [isEmpty_eq, decide_eq_false filled]
    change content (recorded calls).2 = _
    rw [ended, grown, kept, ← Measured.contents_rows]
    rfl

/-- A comma, quotation marks and a line feed are found again in a file that was not there, and a file that was there
is only made longer. -/
theorem measurements_recorded_quoted :
    let calls : List Measured := [⟨"mean, rounded", .integer (-3), "\"V\""⟩, ⟨"two\nlines", .real .nan, ""⟩]
    let file := fun bench : Bench =>
      (Program.runAll Bench.answer (calls.map (·.record "samples.csv")) bench).2.content (.file "samples.csv")
    let kept : Bench := { Bench.empty ⟨0⟩ with files := [("samples.csv", "notes\n")] }
    (∃ times, times.length = 2 ∧ Table.records (file (Bench.empty ⟨0⟩)) =
        ["timestamp", "quantity", "value", "unit"] :: List.zipWith Measured.fields calls times) ∧
      ∃ times, times.length = 2 ∧
        file kept = "notes\n" ++ Table.text (List.zipWith Measured.fields calls times) := by
  intro calls file kept
  have keeps := Bench.keepsFile Destination.ofPath_samples
  have empty : ∃ time, (Bench.empty ⟨0⟩).now = .ok time := ⟨⟨0⟩, by decide +kernel⟩
  have filled : ∃ time, kept.now = .ok time := ⟨⟨0⟩, by decide +kernel⟩
  obtain ⟨_, times, count, _, table, _⟩ := measurements_recorded keeps empty calls
  obtain ⟨_, later, again, _, _, added⟩ := measurements_recorded keeps filled calls
  exact ⟨⟨times, count, table (by decide +kernel) (List.cons_ne_nil _ _)⟩, later, again, added (by decide +kernel)⟩

end SignalGenerator
