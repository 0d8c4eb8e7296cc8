import SignalGenerator.Text.Printable

/-!
Text and bytes in quotation marks, as messages show them. Single quotes are used, unless the content
holds a single quote and no double one. The quote in use and the backslash are escaped, and so is
whatever cannot be printed.
-/

namespace SignalGenerator.Quoted

/-- The quotation mark for a content. -/
def mark (content : List Char) : Char :=
  if content.contains '\'' && !content.contains '"' then '"' else '\''

/-- A number in hexadecimal, filled up to `width` digits. -/
def hex (width n : Nat) : List Char :=
  let digits := Nat.toDigits 16 n
  List.replicate (width - digits.length) '0' ++ digits

/-- A code point as an escape of two, four or eight hexadecimal digits, as it needs. -/
def escapeCode (point : Nat) : List Char :=
  if point < 0x100 then '\\' :: 'x' :: hex 2 point
  else if point < 0x10000 then '\\' :: 'u' :: hex 4 point
  else '\\' :: 'U' :: hex 8 point

/-- One character between quotation marks. -/
def escape (shown : Char → Bool) (quote c : Char) : List Char :=
  if c = quote ∨ c = '\\' then ['\\', c]
  else if c = '\t' then ['\\', 't']
  else if c = '\n' then ['\\', 'n']
  else if c = '\r' then ['\\', 'r']
  else if shown c then [c]
  else escapeCode c.toNat

/-- A content between quotation marks, with the characters for which `shown` holds left as they
are. -/
def enclose (shown : Char → Bool) (content : List Char) : List Char :=
  let quote := mark content
  quote :: content.flatMap (escape shown quote) ++ [quote]

/-- Text between quotation marks. -/
def text (s : String) : String := String.ofList (enclose isPrintable s.toList)

/-- The characters from the space to the tilde. -/
def isPrintableAscii (c : Char) : Bool := decide (' ' ≤ c ∧ c ≤ '~')

/-- Bytes between quotation marks, each one shown as the character with its code where that is
printable ASCII. -/
def bytes (content : List UInt8) : String :=
  String.ofList ('b' :: enclose isPrintableAscii (content.map fun b => Char.ofNat b.toNat))

end SignalGenerator.Quoted
