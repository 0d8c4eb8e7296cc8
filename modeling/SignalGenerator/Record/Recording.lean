import SignalGenerator.Instrument.Status
import SignalGenerator.Record.Row

/-!
Appending rows to files: measured samples, each with the time at which it is written, and the settings
of a channel.
-/

namespace SignalGenerator.Recording

/-- Appends a row to a file, after the names of the columns if the file is empty. -/
def appendRow (path : String) (row : Row) : Program Unit := do
  let isEmpty ← Program.startAppending path
  Program.append path (row.entry isEmpty)

/-- Appends a measured value and gives the row back. -/
def measurement (path quantity : String) (value : Field) (unit : String) : Program Row := do
  let time ← Program.now
  let row : Row :=
    [("timestamp", .instant time), ("quantity", .text quantity), ("value", value),
      ("unit", .text unit)]
  appendRow path row
  return row

def sample (path : String) (sample : Sample) : Program Unit := do
  let _ ← measurement path sample.quantity (.real sample.value) sample.unit

/-- Appends the settings of a channel. -/
def settings (path : String) (channel : Int) (settings : Row) : Program Unit := do
  let time ← Program.now
  let row : Row := [("timestamp", .instant time), ("channel", .integer channel)]
  appendRow path (row.merge settings)

/-- The fields of a status. -/
def statusRow (status : ChannelStatus) : Row :=
  ("waveform", .text status.waveform.name) ::
    status.readings.map fun (adjustment, value) => (adjustment.label, .real value)

end SignalGenerator.Recording
