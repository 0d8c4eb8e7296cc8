import SignalGenerator.Line.Command
import SignalGenerator.Line.Exchange

/-!
Controlling and reading the counter. A reading means something right after the function it is read
for was selected; selecting another one discards it.
-/

namespace SignalGenerator.Counter

/-- Selects what is measured, and does not turn the counter on. -/
def selectFunction (port : Port) (function : CounterFunction) : Program Unit :=
  Exchange.order port (Command.selectFunction function).text

def setGateTime (port : Port) (gateTime : GateTime) : Program Unit :=
  Exchange.order port (Command.setGateTime gateTime).text

def enable (port : Port) (enabled : Bool) : Program Unit :=
  Exchange.order port (Command.enableCounter enabled).text

/-- The register of the counter, whatever is in it. -/
def readRegister (port : Port) : Program Int :=
  Exchange.queryInteger port Command.readCounter.text

/-- Selects a function and reads the register for it. -/
def measure (port : Port) (function : CounterFunction) : Program Binary64 := do
  selectFunction port function
  let raw ← readRegister port
  Program.ofArithmetic (function.decode raw)

end SignalGenerator.Counter
