import SignalGenerator.Panel.Setting

/-!
All settings of a channel at once. Which ones there are depends on the waveform that the channel
produces; a waveform that is not in the table of the channel has a frequency and an amplitude.
-/

namespace SignalGenerator

/-- The settings of a channel as they were read, in order. -/
structure ChannelStatus where
  waveform : Waveform
  readings : List (Adjustment × Binary64)
deriving DecidableEq

namespace Adjustment

/-- The order in which settings are read and listed. -/
def all : List Adjustment := [frequency, amplitude, offset, phase, dutyCycle]

def label : Adjustment → String
  | frequency => "frequency (Hz)"
  | amplitude => "amplitude (V)"
  | offset => "offset (V)"
  | phase => "phase (degrees)"
  | dutyCycle => "duty cycle (%)"

/-- What a waveform on a channel has, in order. -/
def ofWaveform (waveform : Waveform) (channel : Int) : List Adjustment :=
  match (channelTable? channel).bind (·.find? waveform) with
  | some entry => all.filter (entry.adjustments.contains ·)
  | none => [frequency, amplitude]

end Adjustment

namespace ChannelStatus

/-- Reads settings one after the other. -/
def readEach (port : Port) (channel : Int) :
    List Adjustment → Program (List (Adjustment × Binary64))
  | [] => .result []
  | adjustment :: rest => do
    let value ← Setting.readAdjustment port channel adjustment
    return (adjustment, value) :: (← readEach port channel rest)

/-- Reads the waveform of a channel and then the settings it has. -/
def read (port : Port) (channel : Int) : Program ChannelStatus := do
  let waveform ← Setting.readWaveform port channel
  return ⟨waveform, ← readEach port channel (Adjustment.ofWaveform waveform channel)⟩

/-- A status as a message shows it. -/
def text (status : ChannelStatus) : String :=
  let entry (label value : String) : String := Quoted.text label ++ ": " ++ value
  let entries := entry "waveform" (Quoted.text status.waveform.name) ::
    status.readings.map fun (adjustment, value) => entry adjustment.label value.text
  "\x7b" ++ ", ".intercalate entries ++ "\x7d"

end ChannelStatus

end SignalGenerator
