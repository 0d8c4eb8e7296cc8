import SignalGenerator.Calendar.Instant
import SignalGenerator.CommandLine.Arguments

/-!
What one acquisition does: what the command line asks for, and the files to write, which are named
after the time of the start.
-/

namespace SignalGenerator

structure Configuration where
  arguments : Arguments
  samplePath : String
  statusPath : String
deriving DecidableEq

/-- The configuration for a command line and the time of the start. -/
def Configuration.ofCommandLine (commandLine : List String) (start : Instant) :
    Except Fault Configuration := do
  let arguments ← Arguments.ofCommandLine commandLine
  if arguments.gateTime = some .blank then throw (.blank .gateTime)
  return ⟨arguments, s!"{start.fileStamp}_counter.csv", s!"{start.fileStamp}_channel_status.csv"⟩

end SignalGenerator
