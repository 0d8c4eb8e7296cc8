import SignalGenerator.Record.Row

/-!
How tables are read. A text is cut into records at the line feeds and a record into fields at the commas, but
not between quotation marks; a field loses its quotation marks. Main statement: what was written line by line
is read back, whatever stands in the cells.
-/

namespace SignalGenerator

namespace Table

/-- The pieces of a text between separators. A separator between quotation marks does not separate; `quoted`
tells whether the text begins between them. -/
def pieces (separator : Char) : (quoted : Bool) → List Char → List (List Char)
  | _, [] => [[]]
  | quoted, c :: rest =>
    if c = '"' then (pieces separator (!quoted) rest).modifyHead (c :: ·)
    else if c = separator ∧ quoted = false then [] :: pieces separator false rest
    else (pieces separator quoted rest).modifyHead (c :: ·)

/-- Makes one quotation mark of two. -/
def undouble : List Char → List Char
  | '"' :: '"' :: rest => '"' :: undouble rest
  | c :: rest => c :: undouble rest
  | [] => []

/-- The content of a field: what stands between its quotation marks if it has them. -/
def unquote : List Char → List Char
  | '"' :: rest => undouble rest.dropLast
  | plain => plain

/-- The records of a text. After the last line feed there is another one only if something is left. -/
def lines (text : List Char) : List (List Char) :=
  let parts := pieces '\n' false text
  if parts.getLast? = some [] then parts.dropLast else parts

/-- The contents of the fields of a record. -/
def fields (record : List Char) : List String :=
  (pieces ',' false record).map fun field => String.ofList (unquote field)

/-- A text as a table, record by record. -/
def records (text : String) : List (List String) := (lines text.toList).map fields

/-- Going over the text leads from before or between quotation marks to before or between quotation marks,
without a separator on the way. -/
def Passes (separator : Char) (before after : Bool) (text : List Char) : Prop :=
  ∀ rest, pieces separator before (text ++ rest) = (pieces separator after rest).modifyHead (text ++ ·)

/-- A text that belongs together: no separator is found in it, and no quotation is left open. -/
abbrev Sealed (separator : Char) (text : List Char) : Prop := Passes separator false false text

section
variable {separator : Char} {before middle after quoted : Bool} {first text : List Char}

theorem passes_nil : Passes separator quoted quoted [] := by
  intro rest
  exact (congrFun List.modifyHead_id (pieces separator quoted rest)).symm

theorem Passes.append (atFirst : Passes separator before middle first)
    (atText : Passes separator middle after text) : Passes separator before after (first ++ text) := by
  intro rest
  have joined : (first ++ ·) ∘ (text ++ ·) = (first ++ text ++ ·) :=
    funext fun last => (List.append_assoc first text last).symm
  rw [List.append_assoc, atFirst, atText, List.modifyHead_modifyHead, joined]

theorem passes_quote : Passes separator quoted (!quoted) ['"'] := by
  intro rest
  rw [List.singleton_append, pieces, if_pos rfl]
  rfl

theorem passes_plain {c : Char} (plain : c ≠ '"') (other : quoted = true ∨ c ≠ separator) :
    Passes separator quoted quoted [c] := by
  intro rest
  have stays : ¬ (c = separator ∧ quoted = false) := by
    rintro ⟨same, outside⟩
    rcases other with inside | other
    · cases outside.symm.trans inside
    · exact other same
  rw [List.singleton_append, pieces, if_neg plain, if_neg stays]
  rfl

/-- What is sealed is found whole before the next separator. -/
theorem Passes.pieces_cons (closed : Sealed separator text) (plain : separator ≠ '"') (rest : List Char) :
    pieces separator false (text ++ separator :: rest) = text :: pieces separator false rest := by
  rw [closed, pieces, if_neg plain, if_pos ⟨rfl, rfl⟩, List.modifyHead_cons, List.append_nil]

theorem Passes.pieces_self (closed : Sealed separator text) : pieces separator false text = [text] := by
  have whole := closed []
  rwa [List.append_nil, pieces, List.modifyHead_cons, List.append_nil] at whole

end

/-- A content with its quotation marks doubled. -/
def doubled (content : List Char) : List Char :=
  content.flatMap fun c => if c = '"' then ['"', '"'] else [c]

theorem doubled_quote (content : List Char) : doubled ('"' :: content) = '"' :: '"' :: doubled content := rfl

theorem doubled_plain {c : Char} (plain : c ≠ '"') (content : List Char) :
    doubled (c :: content) = c :: doubled content := by
  rw [doubled, List.flatMap_cons, if_neg plain]
  rfl

section
variable {separator : Char} (content : List Char)

/-- Doubled quotation marks lead out of a quotation and into it again. -/
theorem passes_doubled : Passes separator true true (doubled content) := by
  induction content with
  | nil => exact passes_nil
  | cons c content ih =>
    by_cases quote : c = '"'
    · subst quote
      have out : Passes separator true false ['"'] := passes_quote
      have back : Passes separator false true ['"'] := passes_quote
      exact (out.append back).append ih
    · rw [doubled_plain quote]
      exact (passes_plain quote (Or.inl rfl)).append ih

theorem undouble_doubled : undouble (doubled content) = content := by
  induction content with
  | nil => rfl
  | cons c content ih =>
    by_cases quote : c = '"'
    · rw [quote, doubled_quote, undouble, ih]
    · rw [doubled_plain quote, undouble, ih]
      exact fun _ same => absurd same quote

theorem cell_plain (plain : content.any Row.needsQuotes = false) : Row.cell content = content := by
  rw [Row.cell, plain, if_neg Bool.false_ne_true]

theorem cell_quoted (special : content.any Row.needsQuotes = true) :
    Row.cell content = ['"'] ++ doubled content ++ ['"'] := by
  rw [Row.cell, special, if_pos rfl]
  rfl

/-- A text without special characters passes as it is. -/
theorem sealed_plain (special : Row.needsQuotes separator = true)
    (plain : content.any Row.needsQuotes = false) : Sealed separator content := by
  induction content with
  | nil => exact passes_nil
  | cons c content ih =>
    rw [List.any_cons, Bool.or_eq_false_iff] at plain
    have unmarked : c ≠ '"' := by
      rintro rfl
      cases plain.1
    have other : c ≠ separator := by
      rintro rfl
      cases special.symm.trans plain.1
    exact (passes_plain unmarked (Or.inr other)).append (ih plain.2)

/-- Whatever stands in a cell, the cell is kept together. -/
theorem sealed_cell (special : Row.needsQuotes separator = true) : Sealed separator (Row.cell content) := by
  cases marked : content.any Row.needsQuotes with
  | false =>
    rw [cell_plain content marked]
    exact sealed_plain content special marked
  | true =>
    have opening : Passes separator false true ['"'] := passes_quote
    have closing : Passes separator true false ['"'] := passes_quote
    rw [cell_quoted content marked]
    exact (opening.append (passes_doubled content)).append closing

/-- The content of a cell is found again. -/
theorem unquote_cell : unquote (Row.cell content) = content := by
  cases marked : content.any Row.needsQuotes with
  | false =>
    rw [cell_plain content marked]
    cases content with
    | nil => rfl
    | cons c rest =>
      have unmarked : c ≠ '"' := by
        rintro rfl
        cases marked
      rw [unquote]
      exact fun _ same => unmarked (List.cons.inj same).1
  | true =>
    rw [cell_quoted content marked, List.append_assoc, List.singleton_append, unquote, List.dropLast_concat,
      undouble_doubled]

end

/-- The cells of a line, without the line feed. -/
def joined (contents : List String) : List Char :=
  [','].intercalate (contents.map fun content => Row.cell content.toList)

theorem toList_line (contents : List String) : (Row.line contents).toList = joined contents ++ ['\n'] :=
  String.toList_ofList

theorem joined_singleton (content : String) : joined [content] = Row.cell content.toList :=
  List.intercalate_singleton

theorem joined_cons (content : String) {rest : List String} (more : rest ≠ []) :
    joined (content :: rest) = Row.cell content.toList ++ ',' :: joined rest := by
  obtain ⟨next, others, rfl⟩ := List.exists_cons_of_ne_nil more
  rw [joined, List.map_cons, List.map_cons, List.intercalate_cons_cons, List.append_assoc]
  rfl

/-- A record is kept together. -/
theorem sealed_joined (contents : List String) : Sealed '\n' (joined contents) := by
  induction contents with
  | nil => exact passes_nil
  | cons content rest ih =>
    have cell := sealed_cell content.toList (by decide : Row.needsQuotes '\n' = true)
    by_cases more : rest = []
    · subst more
      rwa [joined_singleton]
    · rw [joined_cons content more]
      have comma : Sealed '\n' [','] := passes_plain (by decide) (Or.inr (by decide))
      exact cell.append (comma.append ih)

/-- The fields of a record are found again. -/
theorem fields_joined {contents : List String} (nonempty : contents ≠ []) :
    fields (joined contents) = contents := by
  have cells : pieces ',' false (joined contents) = contents.map fun content => Row.cell content.toList := by
    induction contents with
    | nil => exact absurd rfl nonempty
    | cons content rest ih =>
      have cell := sealed_cell content.toList (by decide : Row.needsQuotes ',' = true)
      by_cases more : rest = []
      · subst more
        rw [joined_singleton, cell.pieces_self, List.map_singleton]
      · rw [joined_cons content more, cell.pieces_cons (by decide), ih more, List.map_cons]
  rw [fields, cells, List.map_map]
  refine (List.map_congr_left fun content _ => ?_).trans (List.map_id contents)
  rw [Function.comp_apply, unquote_cell, String.ofList_toList]
  rfl

/-- The text of some records, line by line. -/
def text (table : List (List String)) : String := String.join (table.map Row.line)

theorem pieces_text (table : List (List String)) :
    pieces '\n' false (text table).toList = table.map joined ++ [[]] := by
  induction table with
  | nil => rfl
  | cons contents rest ih =>
    have split : (text (contents :: rest)).toList = joined contents ++ '\n' :: (text rest).toList := by
      rw [text, List.map_cons, String.join_cons, String.toList_append, toList_line, List.append_assoc]
      rfl
    rw [split, (sealed_joined contents).pieces_cons (by decide), ih]
    rfl

/-- What was written line by line is read back record by record. -/
theorem records_text {table : List (List String)} (nonempty : ∀ contents ∈ table, contents ≠ []) :
    records (text table) = table := by
  have cut : lines (text table).toList = table.map joined := by
    rw [lines, pieces_text]
    rw [List.getLast?_concat, if_pos rfl, List.dropLast_concat]
  rw [records, cut, List.map_map]
  refine (List.map_congr_left fun contents member => ?_).trans (List.map_id table)
  exact fields_joined (nonempty contents member)

end Table

end SignalGenerator
