import SignalGenerator.Acquisition.Configuration
import SignalGenerator.Acquisition.Retry
import SignalGenerator.Acquisition.Run
import SignalGenerator.Acquisition.Sampler
import SignalGenerator.Acquisition.Schedule
import SignalGenerator.Bench.Calls
import SignalGenerator.Bench.Directory
import SignalGenerator.Bench.State
import SignalGenerator.Calendar.Instant
import SignalGenerator.Calendar.Interval
import SignalGenerator.CommandLine.Arguments
import SignalGenerator.CommandLine.Given
import SignalGenerator.CommandLine.Parameter
import SignalGenerator.CommandLine.Token
import SignalGenerator.Counter.Function
import SignalGenerator.Counter.Measurement
import SignalGenerator.Fault
import SignalGenerator.Instrument.Generator
import SignalGenerator.Instrument.Identity
import SignalGenerator.Instrument.Operation
import SignalGenerator.Instrument.Status
import SignalGenerator.Line.Command
import SignalGenerator.Line.Exchange
import SignalGenerator.Line.Reply
import SignalGenerator.Main
import SignalGenerator.Numeric.Binary64
import SignalGenerator.Numeric.Decimal
import SignalGenerator.Numeric.Number
import SignalGenerator.Panel.Attenuation
import SignalGenerator.Panel.Limits
import SignalGenerator.Panel.Scaling
import SignalGenerator.Panel.Setting
import SignalGenerator.Panel.Waveform
import SignalGenerator.Program
import SignalGenerator.Proofs.Appending
import SignalGenerator.Proofs.Arithmetic
import SignalGenerator.Proofs.Attainable
import SignalGenerator.Proofs.Conversation
import SignalGenerator.Proofs.Course
import SignalGenerator.Proofs.Decoding
import SignalGenerator.Proofs.Device
import SignalGenerator.Proofs.Dialogue
import SignalGenerator.Proofs.Encoding
import SignalGenerator.Proofs.EncodingOrder
import SignalGenerator.Proofs.Execution
import SignalGenerator.Proofs.FailedOpening
import SignalGenerator.Proofs.Failures
import SignalGenerator.Proofs.Identification
import SignalGenerator.Proofs.LastFault
import SignalGenerator.Proofs.LastValue
import SignalGenerator.Proofs.LateReplies
import SignalGenerator.Proofs.LegalLines
import SignalGenerator.Proofs.Link
import SignalGenerator.Proofs.NearestWhole
import SignalGenerator.Proofs.NumbersRead
import SignalGenerator.Proofs.Numerals
import SignalGenerator.Proofs.Opening
import SignalGenerator.Proofs.Operations
import SignalGenerator.Proofs.PhaseCircle
import SignalGenerator.Proofs.Plan
import SignalGenerator.Proofs.PollTimes
import SignalGenerator.Proofs.Polling
import SignalGenerator.Proofs.Precision
import SignalGenerator.Proofs.ReadBack
import SignalGenerator.Proofs.Readings
import SignalGenerator.Proofs.Recoding
import SignalGenerator.Proofs.Recorded
import SignalGenerator.Proofs.Refinement
import SignalGenerator.Proofs.Registers
import SignalGenerator.Proofs.Reopening
import SignalGenerator.Proofs.ReplyGrammar
import SignalGenerator.Proofs.Requests
import SignalGenerator.Proofs.Resolution
import SignalGenerator.Proofs.RetriedCalls
import SignalGenerator.Proofs.Rounding
import SignalGenerator.Proofs.SamplerHistory
import SignalGenerator.Proofs.Sending
import SignalGenerator.Proofs.SentFrequency
import SignalGenerator.Proofs.SeparateValue
import SignalGenerator.Proofs.Shutdown
import SignalGenerator.Proofs.StatusTable
import SignalGenerator.Proofs.Ticks
import SignalGenerator.Proofs.Transaction
import SignalGenerator.Proofs.Truncation
import SignalGenerator.Proofs.Turns
import SignalGenerator.Proofs.UsableConfiguration
import SignalGenerator.Proofs.Validation
import SignalGenerator.Proofs.WriteBack
import SignalGenerator.Record.Recording
import SignalGenerator.Record.Row
import SignalGenerator.Text.Digit
import SignalGenerator.Text.Numeral
import SignalGenerator.Text.Printable
import SignalGenerator.Text.Quoted
import SignalGenerator.Proofs.StatusInTurn
