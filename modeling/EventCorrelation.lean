import EventCorrelation.Bus.Assignment
import EventCorrelation.Bus.BrokerLink
import EventCorrelation.Bus.Calls
import EventCorrelation.Bus.Client
import EventCorrelation.Bus.DrainHandle
import EventCorrelation.Bus.Encoder
import EventCorrelation.Bus.Fault
import EventCorrelation.Bus.MemoryLog
import EventCorrelation.Bus.Producer
import EventCorrelation.Bus.Record
import EventCorrelation.Bus.ReportLine
import EventCorrelation.Bus.Run
import EventCorrelation.Bus.Security
import EventCorrelation.Bus.Settings
import EventCorrelation.Bus.Trace
import EventCorrelation.Bus.Transport
import EventCorrelation.CommandLine.Arguments
import EventCorrelation.CommandLine.Fault
import EventCorrelation.CommandLine.FingerprintLine
import EventCorrelation.CommandLine.Invocation
import EventCorrelation.CommandLine.RecordLine
import EventCorrelation.CommandLine.Style
import EventCorrelation.CommandLine.Watch
import EventCorrelation.Consumer.Member
import EventCorrelation.Consumer.Readiness
import EventCorrelation.Consumer.Run
import EventCorrelation.Consumer.Session
import EventCorrelation.Consumer.Timeline
import EventCorrelation.Database.Address.Basic
import EventCorrelation.Database.Address.Path
import EventCorrelation.Database.Address.Reader
import EventCorrelation.Database.Address.Server
import EventCorrelation.Database.Connection
import EventCorrelation.Database.Fault
import EventCorrelation.Database.Settings
import EventCorrelation.Decimal.Binary64
import EventCorrelation.Decimal.Shortest
import EventCorrelation.Digest.Sha256
import EventCorrelation.Environment
import EventCorrelation.Event
import EventCorrelation.Fingerprint
import EventCorrelation.Host.Direction
import EventCorrelation.Host.Folding
import EventCorrelation.Host.Ip
import EventCorrelation.Host.Joining
import EventCorrelation.Host.Marks
import EventCorrelation.Host.Name
import EventCorrelation.Host.Punycode
import EventCorrelation.Identifier.Base32
import EventCorrelation.Identifier.Basic
import EventCorrelation.Identifier.Spelling
import EventCorrelation.Identifier.Supply
import EventCorrelation.Intake.Command
import EventCorrelation.Intake.Handler
import EventCorrelation.Intake.Run
import EventCorrelation.Json.Basic
import EventCorrelation.Json.Codec
import EventCorrelation.Json.Decoder
import EventCorrelation.Json.Fault
import EventCorrelation.Json.Literal
import EventCorrelation.Json.Meaning
import EventCorrelation.Json.Members
import EventCorrelation.Json.Printer
import EventCorrelation.Json.Record
import EventCorrelation.Json.Spelling
import EventCorrelation.Json.Text
import EventCorrelation.Json.Tree
import EventCorrelation.Main
import EventCorrelation.Message
import EventCorrelation.Proofs.Bus.HealthyLog
import EventCorrelation.Proofs.Bus.Lifecycle
import EventCorrelation.Proofs.Bus.Offsets
import EventCorrelation.Proofs.Bus.Protection
import EventCorrelation.Proofs.Bus.Reports
import EventCorrelation.Proofs.Consumer.CutShort
import EventCorrelation.Proofs.Consumer.Log
import EventCorrelation.Proofs.Consumer.Marking
import EventCorrelation.Proofs.Consumer.Moves
import EventCorrelation.Proofs.Fingerprint.Schemas
import EventCorrelation.Proofs.Fingerprint.Words
import EventCorrelation.Proofs.Group.Members
import EventCorrelation.Proofs.Identifier.Draws
import EventCorrelation.Proofs.Identifier.Grammar
import EventCorrelation.Proofs.Identifier.Order
import EventCorrelation.Proofs.Identifier.RoundTrip
import EventCorrelation.Proofs.Intake.Completions
import EventCorrelation.Proofs.Intake.Mirror
import EventCorrelation.Proofs.Intake.Outage
import EventCorrelation.Proofs.Intake.Readback
import EventCorrelation.Proofs.Json.Decoding
import EventCorrelation.Proofs.Json.Distinct
import EventCorrelation.Proofs.Json.Integers
import EventCorrelation.Proofs.Json.Layouts
import EventCorrelation.Proofs.Json.Meaning
import EventCorrelation.Proofs.Json.Nesting
import EventCorrelation.Proofs.Json.Objects
import EventCorrelation.Proofs.Json.Records
import EventCorrelation.Proofs.Json.Scanning
import EventCorrelation.Proofs.Json.Sorting
import EventCorrelation.Proofs.Json.Strings
import EventCorrelation.Proofs.Service.Announcements
import EventCorrelation.Proofs.Service.Integrity
import EventCorrelation.Proofs.Service.Interleaving
import EventCorrelation.Proofs.Service.Perform
import EventCorrelation.Proofs.Service.Redelivery
import EventCorrelation.Proofs.Service.Trigger
import EventCorrelation.Proofs.Store.Reachable
import EventCorrelation.Proofs.Text.Encoding
import EventCorrelation.Proofs.Text.Pieces
import EventCorrelation.Proofs.Time.Calendar
import EventCorrelation.Proofs.Time.Digits
import EventCorrelation.Proofs.Time.RoundTrip
import EventCorrelation.Proofs.Time.Validity
import EventCorrelation.Proofs.Watcher.Losses
import EventCorrelation.Proofs.Watcher.Safety
import EventCorrelation.Proofs.Wire.Commands
import EventCorrelation.Proofs.Wire.Envelopes
import EventCorrelation.Proofs.Wire.Exact
import EventCorrelation.Proofs.Wire.Readability
import EventCorrelation.Proofs.Wire.Records
import EventCorrelation.Proofs.Wire.RoundTrip
import EventCorrelation.Receiver
import EventCorrelation.ReceiverGroup
import EventCorrelation.Service.Basic
import EventCorrelation.Service.EventCall
import EventCorrelation.Service.History
import EventCorrelation.Service.Interleaving
import EventCorrelation.Service.Settings
import EventCorrelation.ShutdownFlag
import EventCorrelation.Store.Basic
import EventCorrelation.Store.Fault
import EventCorrelation.Store.Memory
import EventCorrelation.Store.Overlay
import EventCorrelation.Text.Blank
import EventCorrelation.Text.Hex
import EventCorrelation.Text.Numeral
import EventCorrelation.Text.Percent
import EventCorrelation.Text.Pieces
import EventCorrelation.Text.Quoted
import EventCorrelation.Text.Utf8
import EventCorrelation.Text.Visible
import EventCorrelation.Time.Calendar
import EventCorrelation.Time.Timestamp
import EventCorrelation.Watcher.Basic
import EventCorrelation.Watcher.Timeline
import EventCorrelation.Yaml.Ambiguity
import EventCorrelation.Yaml.Printer
import EventCorrelation.Yaml.Scalar
import EventCorrelation.CommandLine.WatchRun
import EventCorrelation.Proofs.CommandLine.Ending
import EventCorrelation.Consumer.ReadinessRun
import EventCorrelation.Proofs.Consumer.Readiness
import EventCorrelation.Proofs.Group.FirstOccurrences
import EventCorrelation.Proofs.Service.Prechecks
import EventCorrelation.Proofs.Bus.Brokers
import EventCorrelation.Proofs.Bus.Epochs
import EventCorrelation.Proofs.CommandLine.Breaks
import EventCorrelation.Proofs.Json.Printing
import EventCorrelation.Proofs.Json.Numbers
import EventCorrelation.Proofs.Wire.Legible
import EventCorrelation.Proofs.CommandLine.Fingerprints
import EventCorrelation.Proofs.CommandLine.JsonLine
