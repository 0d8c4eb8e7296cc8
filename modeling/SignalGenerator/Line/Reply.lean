import SignalGenerator.Fault

/-!
The replies of the generator. A reply is one line: an acknowledgement, which is empty or the word
`ok`, or a value, which repeats the first four characters of the command that asked for it. What is
neither is refused.
-/

namespace SignalGenerator.Reply

/-- The longest line of the protocol. -/
def longest : Nat := 32

/-- A value comes after so many characters of the command, for instance `:r1f`. -/
def tagLength : Nat := 4

def isTerminator (c : Char) : Bool := c = '\r' || c = '\n'

/-- A line as text without the line ends that it ends with. Every byte has to be ASCII. -/
def ofLine (line : List UInt8) : Except Fault String :=
  if line.all (· < 128) then
    let characters := line.map fun b => Char.ofNat b.toNat
    .ok (String.ofList (characters.reverse.dropWhile isTerminator).reverse)
  else .error (.notAscii line)

def isAcknowledgement (reply : String) : Bool := reply = "" || reply = "ok"

/-- Accepts an acknowledgement and nothing else. -/
def acknowledge (command reply : String) : Except Fault Unit :=
  if isAcknowledgement reply then .ok () else .error (.notAcknowledged command reply)

/-- The first four characters of a command. -/
def tag (command : String) : String := String.ofList (command.toList.take tagLength)

/-- What follows the repeated command in a reply. -/
def value (reply : String) : String := String.ofList (reply.toList.drop tagLength)

/-- Accepts a reply with a value to this command. -/
def checkData (command reply : String) : Except Fault String :=
  let length := reply.toList.length
  if isAcknowledgement reply || decide (length ≤ tagLength) then .error (.noValue command reply)
  else if longest < length then .error (.replyTooLong command length)
  else if !((tag command).toList.isPrefixOf reply.toList) then
    .error (.notEchoed command reply (tag command))
  else .ok reply

/-- The number that decimal digits denote. -/
def natural? (digits : List Char) : Option Nat :=
  if !digits.isEmpty && digits.all Char.isDigit then some (Nat.ofDigitChars 10 digits 0) else none

/-- The integer that a text denotes: an optional minus sign and decimal digits, nothing else. -/
def integer? (text : String) : Option Int :=
  match text.toList with
  | '-' :: digits => (natural? digits).map fun (n : Nat) => -(n : Int)
  | digits => (natural? digits).map fun (n : Nat) => (n : Int)

/-- The integer in a reply with a value. -/
def integer (command reply : String) : Except Fault Int :=
  match integer? (value reply) with
  | some n => .ok n
  | none => .error (.notAnInteger command reply (value reply))

end SignalGenerator.Reply
