import SignalGenerator.CommandLine.Parameter
import SignalGenerator.Text.Digit

/-!
What each argument of the command line is. An argument that begins with a dash names a parameter, by
a spelling of it or by the beginning of its long spelling; a value may be attached to it. Everything
else is an operand, and so is everything after two dashes.
-/

namespace SignalGenerator

/-- How a parameter is named: by its letter, or by its long spelling or the beginning of it. -/
inductive Spelling
  | short
  | long
deriving DecidableEq

inductive Token
  | operand (text : String)
  /-- Two dashes. -/
  | separator
  /-- A parameter, and what follows its name in the same argument. -/
  | named (parameter : Parameter) (spelling : Spelling) (attached : Option (List Char))
  /-- An argument that looks like a name and is none. -/
  | unknown (text : String)
deriving DecidableEq

/-- Why a command line was not accepted: the code to exit with, and the message. Help is asked for
with code 0. -/
structure Exit where
  code : Nat
  message : String
deriving DecidableEq

/-- The exit for a command line that is refused. -/
def Exit.refusal (message : String) : Exit := ⟨2, message⟩

namespace Token

/-- A text before and after its first equals sign. -/
def splitEquals (text : List Char) : List Char × Option (List Char) :=
  match text.dropWhile (· != '=') with
  | _ :: value => (text.takeWhile (· != '='), some value)
  | [] => (text, none)

/-- A name has one dash before a letter, and two before a word. -/
def spelling : List Char → Spelling
  | '-' :: '-' :: _ => .long
  | _ => .short

def isDecimal (c : Char) : Bool := (decimalValue? c).isSome

/-- A dash and digits, with a point before the last of them or without one. A line feed may
follow. -/
def isNegativeNumber (text : List Char) : Bool :=
  let body := if text.getLast? = some '\n' then text.dropLast else text
  match body with
  | '-' :: digits =>
    let fraction := digits.dropWhile isDecimal
    match fraction with
    | [] => !digits.isEmpty
    | point :: rest => point = '.' && !rest.isEmpty && rest.all isDecimal
  | _ => false

/-- The parameters that an argument may name, and what follows the name: a long spelling may be cut
short, and after a letter the value may follow at once. -/
def candidates (text : List Char) : List (Parameter × Option (List Char)) :=
  match text with
  | '-' :: '-' :: _ =>
    let (name, attached) := splitEquals text
    (Parameter.beginningWith name).map (·, attached)
  | '-' :: letter :: value => ((Parameter.ofLetter? letter).map (·, some value)).toList
  | _ => []

/-- What an argument that begins with a dash and has more characters is, if it is no spelling of a
parameter, neither alone nor before an equals sign. -/
def ofAbbreviation (text : String) : Except Exit Token :=
  match candidates text.toList with
  | [(parameter, attached)] => .ok (.named parameter (spelling text.toList) attached)
  | [] =>
    if isNegativeNumber text.toList || text.toList.contains ' ' then .ok (.operand text)
    else .ok (.unknown text)
  | several =>
    let names := ", ".intercalate (several.map (·.1.long))
    .error (.refusal s!"ambiguous option: {text} could match {names}")

def ofArgument (text : String) : Except Exit Token :=
  let characters := text.toList
  if characters.head? ≠ some '-' then .ok (.operand text)
  else
    match Parameter.ofSpelling? characters with
    | some parameter => .ok (.named parameter (spelling characters) none)
    | none =>
      if characters = ['-'] then .ok (.operand text)
      else
        let (name, attached) := splitEquals characters
        match attached, Parameter.ofSpelling? name with
        | some value, some parameter => .ok (.named parameter (spelling name) (some value))
        | _, _ => ofAbbreviation text

/-- What all arguments are. One that is ambiguous spoils them all. -/
def ofArguments : List String → Except Exit (List Token)
  | [] => .ok []
  | "--" :: rest => .ok (.separator :: rest.map .operand)
  | text :: rest => do
    let token ← ofArgument text
    return token :: (← ofArguments rest)

end Token

end SignalGenerator
