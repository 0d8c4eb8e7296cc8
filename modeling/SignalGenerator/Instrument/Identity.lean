import SignalGenerator.Line.Command
import SignalGenerator.Line.Exchange
import SignalGenerator.Text.Numeral

/-!
Which generator answers. The code of a model begins with the two digits of its family, and the next
two digits are the highest frequency of the sine in megahertz.
-/

namespace SignalGenerator

structure Identity where
  model : String
  /-- The highest frequency of the model, in hertz. -/
  maxFrequency : Number
deriving DecidableEq

namespace Identity

/-- The first digits of all model codes of the family. -/
def familyDigits : List Char := ['5', '2']

def shortestCode : Nat := 5

/-- Reads the reply to the question for the model. -/
def ofReply (reply : String) : Except Fault Identity :=
  let code := Reply.value reply
  let characters := code.toList
  let megahertz := (characters.drop 2).take 2
  if characters.length < shortestCode then .error (.modelTooShort code)
  else if !familyDigits.isPrefixOf characters then .error (.modelForeign code)
  else if !megahertz.all isAnyDigit then .error (.modelWithoutFrequency code)
  else
    match Numeral.integer? (String.ofList megahertz) with
    | none => .error (.notANumeral (String.ofList megahertz))
    | some count =>
      .ok ⟨"MHS-" ++ String.ofList ((characters.drop 2).take 5), .integer (count * 1000000)⟩

/-- The highest frequency in megahertz, as it is announced. -/
def megahertzText (identity : Identity) : String :=
  match identity.maxFrequency with
  | .integer hertz => toString (hertz / 1000000)
  | .real hertz => hertz.text

/-- Asks the generator on a port for its model. -/
def identify (port : Port) : Program Identity := do
  let reply ← Exchange.query port Command.readModel.text
  Program.ofExcept (ofReply reply)

end Identity

end SignalGenerator
