import SignalGenerator.Fault

/-!
What a setting may be, and what is said about a value that it may not be. A value that is not a
number is only said not to be finite.
-/

namespace SignalGenerator.Limits

/-- The messages for a value outside of `lowest` to `highest`. -/
def errors (quantity below above : String) (value lowest highest : Number) :
    Except ArithmeticFault (List String) := do
  let finite ← value.isFinite
  return (if finite then [] else [quantity ++ " is not a finite number"]) ++
    (if value.isLess lowest then [below] else []) ++
    (if highest.isLess value then [above] else [])

/-- The lowest and the highest frequency of a waveform and the step between frequencies, in hertz,
for a generator of this model. What is not in the table of the channel goes from zero up to the
maximum of the model. -/
def frequencyRange (waveform : Waveform) (maximum : Number) (channel : Int) :
    Except Fault (Number × Number × Number) :=
  match channelTable? channel with
  | none => .error (.noSuchChannel channel)
  | some table =>
    match table.find? waveform with
    | none => .ok (.real Binary64.zero, maximum, .real microhertz)
    | some entry =>
      .ok ((Number.real entry.lowest).greatest (.real Binary64.zero),
        (Number.real entry.highest).least maximum, .real entry.step)

def frequencyErrors (hertz : Number) (waveform : Waveform) (maximum : Number) (channel : Int) :
    Except Fault (List String) := do
  let (lowest, highest, _) ← frequencyRange waveform maximum channel
  (errors "frequency" s!"frequency < {lowest.text} Hz"
    s!"frequency > {highest.text} Hz for {waveform.name}" hertz lowest highest).mapError .arithmetic

def amplitudeErrors (volts : Number) : Except ArithmeticFault (List String) :=
  errors "amplitude" "amplitude < 0 V" "amplitude > 20 V" volts 0 20

def dutyCycleErrors (percent : Number) : Except ArithmeticFault (List String) :=
  errors "duty cycle" "duty cycle < 0%" "duty cycle > 100%" percent 0 100

def offsetPercentErrors (percent : Number) : Except ArithmeticFault (List String) :=
  errors "offset" "offset < -120% of amplitude" "offset > 120% of amplitude" percent
    (.integer (-120)) 120

/-- Refuses a setting about which there is something to say. -/
def check (setting : String) (errors : List String) : Except Fault Unit :=
  if errors.isEmpty then .ok () else .error (.outOfRange setting errors)

end SignalGenerator.Limits
