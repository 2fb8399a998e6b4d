import Sluice.Calendar.Date
import Sluice.Calendar.DateTime
import Sluice.Calendar.Duration
import Sluice.Calendar.Lexeme
import Sluice.Calendar.Literal
import Sluice.Calendar.Readers
import Sluice.Calendar.TimeLiteral
import Sluice.Calendar.TimeReader
import Sluice.Command.Arguments
import Sluice.Command.Execute
import Sluice.Config.Amount
import Sluice.Config.Controls
import Sluice.Config.Field
import Sluice.Config.FileName
import Sluice.Config.Settings
import Sluice.Config.Version
import Sluice.Control.Arbiter
import Sluice.Control.Condition
import Sluice.Control.Engine
import Sluice.Control.Model
import Sluice.Control.Modulation
import Sluice.Control.Source
import Sluice.Json.Basic
import Sluice.Json.Bounded
import Sluice.Json.Compare
import Sluice.Json.Plain
import Sluice.Json.Printer
import Sluice.Json.Reader
import Sluice.Log.Entry
import Sluice.Log.Logger
import Sluice.Log.Template
import Sluice.Main
import Sluice.Network.Attribute
import Sluice.Network.Column
import Sluice.Network.Dataset
import Sluice.Network.IdIndex
import Sluice.Network.State
import Sluice.Network.Table
import Sluice.Number.Binary64
import Sluice.Number.Count
import Sluice.Number.Digits
import Sluice.Number.Numeral
import Sluice.Number.Rounding
import Sluice.Number.Scalar
import Sluice.Number.Written
import Sluice.PumpStation
import Sluice.Rule.Action
import Sluice.Rule.Builder
import Sluice.Rule.Clause
import Sluice.Rule.Fault
import Sluice.Rule.Premise
import Sluice.Rule.Section
import Sluice.Rule.Text
import Sluice.Rule.Token
import Sluice.Schema.Basic
import Sluice.Schema.Check
import Sluice.Schema.Reader
import Sluice.Schema.Reference
import Sluice.Schema.Remark
import Sluice.Schema.Violation
import Sluice.Text.Blank
import Sluice.Text.Case
import Sluice.Text.Digit
import Sluice.Text.Lines
import Sluice.Text.Pattern
import Sluice.Text.Quoted
import Sluice.Text.Word
import Sluice.Time.Clock
import Sluice.Time.Timeline
import Sluice.Proofs.Calendar.Days
import Sluice.Proofs.Config.Acceptance
import Sluice.Proofs.Config.ControlStep
import Sluice.Proofs.Control.Bids
import Sluice.Proofs.Control.Built
import Sluice.Proofs.Control.Changes
import Sluice.Proofs.Control.Footprint
import Sluice.Proofs.Control.Grouping
import Sluice.Proofs.Control.Isolation
import Sluice.Proofs.Control.Memory
import Sluice.Proofs.Control.Positional
import Sluice.Proofs.Control.Range
import Sluice.Proofs.Control.Readiness
import Sluice.Proofs.Control.Reordering
import Sluice.Proofs.Control.Repetition
import Sluice.Proofs.Control.Runs
import Sluice.Proofs.Control.Schedule
import Sluice.Proofs.Control.SeriesSetting
import Sluice.Proofs.Control.Step
import Sluice.Proofs.Control.Switching
import Sluice.Proofs.Control.Winner
import Sluice.Proofs.Control.Writing
import Sluice.Proofs.Json.Plain
import Sluice.Proofs.Json.RoundTrip
import Sluice.Proofs.Network.Additions
import Sluice.Proofs.Network.Alignment
import Sluice.Proofs.Network.Indexing
import Sluice.Proofs.Network.Interpolation
import Sluice.Proofs.Network.Lookup
import Sluice.Proofs.Network.Naming
import Sluice.Proofs.Number.Decoding
import Sluice.Proofs.Number.Exact
import Sluice.Proofs.Number.Nearest
import Sluice.Proofs.Number.Nonnegative
import Sluice.Proofs.Number.Normal
import Sluice.Proofs.Number.Order
import Sluice.Proofs.Outcome
import Sluice.Proofs.Rule.Accepting
import Sluice.Proofs.Rule.Accounting
import Sluice.Proofs.Rule.Assignment
import Sluice.Proofs.Rule.Collecting
import Sluice.Proofs.Rule.Comparison
import Sluice.Proofs.Rule.Fitting
import Sluice.Proofs.Rule.Grammar
import Sluice.Proofs.Rule.Line
import Sluice.Proofs.Rule.Locality
import Sluice.Proofs.Rule.Ordering
import Sluice.Proofs.Rule.Quoting
import Sluice.Proofs.Rule.Reading
import Sluice.Proofs.Rule.Refusal
import Sluice.Proofs.Rule.Sections
import Sluice.Proofs.Rule.Session
import Sluice.Proofs.Rule.Strictness
import Sluice.Proofs.Rule.Vocabulary
import Sluice.Proofs.Schema.Deciding
import Sluice.Proofs.Time.ClockLiteral
import Sluice.Proofs.Time.ClockText
import Sluice.Proofs.Time.Conversion
import Sluice.Proofs.Time.Instants
import Sluice.Proofs.Time.Readings
