import LoadHarness.Chain.Basic
import LoadHarness.Chain.Move
import LoadHarness.Chain.Resolution
import LoadHarness.CommandLine.Invocation
import LoadHarness.CommandLine.Number
import LoadHarness.CommandLine.Reading
import LoadHarness.CommandLine.Refusal
import LoadHarness.CommandLine.Settings
import LoadHarness.CommandLine.Usage
import LoadHarness.Counters.Basic
import LoadHarness.Counters.Drain
import LoadHarness.Duration
import LoadHarness.Failure
import LoadHarness.Fleet
import LoadHarness.Header
import LoadHarness.Json.Basic
import LoadHarness.Json.Reader
import LoadHarness.Json.Writer
import LoadHarness.Live.Connection
import LoadHarness.Live.Http
import LoadHarness.Live.Run
import LoadHarness.Live.WebSocket
import LoadHarness.Main
import LoadHarness.Message
import LoadHarness.Program
import LoadHarness.Proofs.Campaign.Budget
import LoadHarness.Proofs.Campaign.Change
import LoadHarness.Proofs.Campaign.Completion
import LoadHarness.Proofs.Campaign.Course
import LoadHarness.Proofs.Campaign.Ledger
import LoadHarness.Proofs.Campaign.Logbook
import LoadHarness.Proofs.Campaign.Pace
import LoadHarness.Proofs.Campaign.Rehearsal
import LoadHarness.Proofs.Campaign.Report
import LoadHarness.Proofs.Campaign.Shutdown
import LoadHarness.Proofs.Campaign.Staleness
import LoadHarness.Proofs.Campaign.Steadiness
import LoadHarness.Proofs.Chain.Effect
import LoadHarness.Proofs.Chain.Exchange
import LoadHarness.Proofs.Chain.Lifecycle
import LoadHarness.Proofs.Chain.Passage
import LoadHarness.Proofs.Chain.Silence
import LoadHarness.Proofs.CommandLine.Argument
import LoadHarness.Proofs.CommandLine.RoundTrip
import LoadHarness.Proofs.Counters.Delta
import LoadHarness.Proofs.Counters.Drain
import LoadHarness.Proofs.Duration
import LoadHarness.Proofs.Fleet.Accounting
import LoadHarness.Proofs.Fleet.Crowd
import LoadHarness.Proofs.Fleet.Exchange
import LoadHarness.Proofs.Fleet.Frame
import LoadHarness.Proofs.Fleet.Lifecycle
import LoadHarness.Proofs.Fleet.Silence
import LoadHarness.Proofs.Fleet.Tally
import LoadHarness.Proofs.Fleet.Walk
import LoadHarness.Proofs.Header
import LoadHarness.Proofs.Header.Cut
import LoadHarness.Proofs.Json.Grammar
import LoadHarness.Proofs.Json.Identifier
import LoadHarness.Proofs.Json.Range
import LoadHarness.Proofs.Json.RoundTrip
import LoadHarness.Proofs.Json.Scalar
import LoadHarness.Proofs.Json.Value
import LoadHarness.Proofs.Message
import LoadHarness.Proofs.Report.Distribution
import LoadHarness.Proofs.Report.Progress
import LoadHarness.Proofs.Report.Summary
import LoadHarness.Proofs.Run.Alone
import LoadHarness.Proofs.Run.Conclusion
import LoadHarness.Proofs.Run.Crew
import LoadHarness.Proofs.Run.Exchange
import LoadHarness.Proofs.Run.Flight
import LoadHarness.Proofs.Run.History
import LoadHarness.Proofs.Run.Release
import LoadHarness.Proofs.Run.Turn
import LoadHarness.Proofs.Settings.Agreement
import LoadHarness.Proofs.Text
import LoadHarness.Proofs.Transport.Carriage
import LoadHarness.Proofs.Transport.Http
import LoadHarness.Proofs.Transport.Lifecycle
import LoadHarness.Proofs.Transport.WebSocket
import LoadHarness.Report.Distribution
import LoadHarness.Report.Progress
import LoadHarness.Report.Summary
import LoadHarness.RequestId
import LoadHarness.Run.Basic
import LoadHarness.Run.Campaign
import LoadHarness.Run.Monitor
import LoadHarness.Run.Rehearsal
import LoadHarness.Run.Timeline
import LoadHarness.Settings.Basic
import LoadHarness.Settings.Check
import LoadHarness.Settings.Route
import LoadHarness.Settings.Summary
import LoadHarness.Text.Blank
import LoadHarness.Text.Decoding
import LoadHarness.Text.Numeral
import LoadHarness.Text.Percent
import LoadHarness.Text.Printable
import LoadHarness.Text.Utf8
import LoadHarness.Transport.Behaviour
import LoadHarness.Transport.Http
import LoadHarness.Transport.Unreachable
import LoadHarness.Transport.WebSocket
import LoadHarness.Url.Address
import LoadHarness.Url.Basic
import LoadHarness.Url.Credentials
import LoadHarness.Url.Domain
import LoadHarness.Url.Domain.Allowed
import LoadHarness.Url.Domain.Compatibility
import LoadHarness.Url.Domain.Direction
import LoadHarness.Url.Domain.Marks
import LoadHarness.Url.Domain.Punycode
import LoadHarness.Url.Error
import LoadHarness.Url.Path
import LoadHarness.Wire.Base64
import LoadHarness.Wire.Frame
import LoadHarness.Wire.Http
import LoadHarness.Wire.Sha1
