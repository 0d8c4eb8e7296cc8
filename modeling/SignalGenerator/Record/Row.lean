import SignalGenerator.Calendar.Instant
import SignalGenerator.Counter.Function

/-!
Rows of a table in a text file. A row is a line of cells with commas between them; a cell with a
comma, a quotation mark or a line feed in it is quoted, with its quotation marks doubled. The first
row of a file comes after a line with the names of its columns.
-/

namespace SignalGenerator

/-- What can stand in a cell. -/
inductive Field
  | instant (instant : Instant)
  | integer (value : Int)
  | real (value : Binary64)
  | text (text : String)
  | flag (value : Bool)
  | missing
deriving DecidableEq

namespace Field

/-- The content of a cell before it is quoted. What is not a number is left out. -/
def content : Field → String
  | instant t => t.tableText
  | integer n => toString n
  | real .nan => ""
  | real x => x.text
  | text s => s
  | flag b => if b then "True" else "False"
  | missing => ""

end Field

/-- Fields with the names of their columns. -/
abbrev Row := List (String × Field)

namespace Row

def needsQuotes (c : Char) : Bool := c = ',' || c = '"' || c = '\n'

/-- A content as it is written between commas. -/
def cell (content : List Char) : List Char :=
  if content.any needsQuotes then
    '"' :: content.flatMap (fun c => if c = '"' then ['"', '"'] else [c]) ++ ['"']
  else content

/-- A line of cells. -/
def line (contents : List String) : String :=
  String.ofList ([','].intercalate (contents.map fun content => cell content.toList) ++ ['\n'])

/-- What a row adds to a file, which is empty or not. -/
def entry (isEmpty : Bool) (row : Row) : String :=
  (if isEmpty then line (row.map (·.1)) else "") ++ line (row.map (·.2.content))

/-- Sets a field, in its place if there is one of that name, and else at the end. -/
def put (row : Row) (name : String) (field : Field) : Row :=
  if row.any (·.1 = name) then row.map fun (n, f) => if n = name then (n, field) else (n, f)
  else row ++ [(name, field)]

/-- Sets the fields of another row, one after the other. -/
def merge (row other : Row) : Row := other.foldl (fun merged (name, field) => merged.put name field) row

/-- Integers that fit a machine word of 64 bits together, with or without a sign. -/
def fitWord (values : List Int) : Bool :=
  values.all (fun n => decide (-Int.pow 2 63 ≤ n ∧ n < Int.pow 2 63)) ||
    values.all (fun n => decide (0 ≤ n ∧ n < Int.pow 2 64))

/-- Fields of one kind, as far as their values are all numbers: integers become binary64 numbers
when one of the others is one or is missing. -/
def uniform (row : Row) : Row :=
  let fields := row.map (·.2)
  let integers := fields.filterMap fun | .integer n => some n | _ => none
  let isNumber : Field → Bool | .integer _ | .real _ | .missing => true | _ => false
  let isInteger : Field → Bool | .integer _ => true | _ => false
  if fields.all isNumber && !fields.all isInteger && fitWord integers then
    row.map fun
      | (name, .integer n) => (name, .real (Binary64.ofInt n))
      | other => other
  else row

end Row

end SignalGenerator
