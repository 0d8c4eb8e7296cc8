import SignalGenerator.Numeric.Number
import SignalGenerator.Text.Digit

/-!
Numbers as a user types them. Blanks around a numeral are dropped, digits of any decimal script
count, and a single underscore may stand between two digits. An integer is a sign and digits. A real
number may also have a point, an exponent, or be one of the words for infinity and for not a number.
-/

namespace SignalGenerator.Numeral

/-- The blanks that count among ASCII characters: tab, line feed, vertical tab, form feed, carriage
return and space. -/
def isAsciiBlank (c : Char) : Bool := c = ' ' || decide (9 ≤ c.toNat ∧ c.toNat ≤ 13)

/-- The blanks beyond ASCII. -/
def isWideBlank (c : Char) : Bool :=
  [0x85, 0xa0, 0x1680, 0x2028, 0x2029, 0x202f, 0x205f, 0x3000].contains c.toNat ||
    decide (0x2000 ≤ c.toNat ∧ c.toNat ≤ 0x200a)

def digitChar (value : Nat) : Char := Char.ofNat (48 + value)

/-- A typed character in plain ASCII: digits of all scripts become ASCII digits and wide blanks
become spaces. Any other character beyond ASCII has no place in a numeral. -/
def plain (c : Char) : Option Char :=
  if c.toNat < 127 then some c
  else if isWideBlank c then some ' '
  else (decimalValue? c).map digitChar

/-- The typed text in plain ASCII without the blanks around it. -/
def trimmed (typed : String) : Option (List Char) := do
  let ascii ← typed.toList.mapM plain
  return ((ascii.dropWhile isAsciiBlank).reverse.dropWhile isAsciiBlank).reverse

/-- Drops the underscores that stand between two digits; any other one spoils the numeral. -/
def withoutUnderscores : List Char → Option (List Char)
  | [] => some []
  | c :: '_' :: d :: rest =>
    if c.isDigit && d.isDigit then (withoutUnderscores (d :: rest)).map (c :: ·) else none
  | c :: rest => if c = '_' then none else (withoutUnderscores rest).map (c :: ·)

/-- The sign in front of a numeral, and what follows it. -/
def signed : List Char → Bool × List Char
  | '-' :: rest => (true, rest)
  | '+' :: rest => (false, rest)
  | rest => (false, rest)

/-- The value of a run of ASCII digits. -/
def ofDigits (digits : List Char) : Nat := Nat.ofDigitChars 10 digits 0

/-- A numeral with more digits than this is not read as an integer. -/
def longestInteger : Nat := 4300

/-- The integer that was typed. -/
def integer? (typed : String) : Option Int := do
  let (negative, digits) := signed (← withoutUnderscores (← trimmed typed))
  if digits.isEmpty || !digits.all Char.isDigit || longestInteger < digits.length then none
  else some (if negative then -(ofDigits digits : Int) else ofDigits digits)

/-- The exponent part of a decimal numeral, or nothing at all. -/
def exponent? : List Char → Option Int
  | [] => some 0
  | e :: rest =>
    let (negative, digits) := signed rest
    if (e = 'e' || e = 'E') && !digits.isEmpty && digits.all Char.isDigit then
      some (if negative then -(ofDigits digits : Int) else ofDigits digits)
    else none

/-- The number for digits before and after a point and an exponent. Far out of range no power of ten
is computed: the number is zero or infinite. -/
def scaled (negative : Bool) (whole fraction : List Char) (exponent : Int) : Binary64 :=
  let digits := ofDigits (whole ++ fraction)
  let shift := exponent - fraction.length
  let magnitude := shift + (Nat.toDigits 10 digits).length
  if digits = 0 ∨ magnitude < -400 then Binary64.ofUnits negative 0
  else if 400 < magnitude then .infinite negative
  else Binary64.ofDecimal negative digits shift

/-- An unsigned decimal numeral. Digits stand before the point or after it, or on both sides. -/
def decimal? (negative : Bool) (numeral : List Char) : Option Binary64 :=
  let whole := numeral.takeWhile Char.isDigit
  let rest := numeral.dropWhile Char.isDigit
  let (fraction, rest) :=
    match rest with
    | '.' :: rest => (rest.takeWhile Char.isDigit, rest.dropWhile Char.isDigit)
    | rest => ([], rest)
  if whole.isEmpty && fraction.isEmpty then none
  else (exponent? rest).map (scaled negative whole fraction)

/-- The real number that was typed. -/
def real? (typed : String) : Option Binary64 := do
  let (negative, numeral) := signed (← withoutUnderscores (← trimmed typed))
  let word := String.ofList (numeral.map Char.toLower)
  if word = "inf" || word = "infinity" then some (.infinite negative)
  else if word = "nan" then some .nan
  else decimal? negative numeral

end SignalGenerator.Numeral
