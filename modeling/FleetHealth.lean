import FleetHealth.Text.Blank
import FleetHealth.Text.Casing
import FleetHealth.Text.Quoted
import FleetHealth.Binary64.Arithmetic
import FleetHealth.Binary64.Shortest
import FleetHealth.Decimal.Reader
import FleetHealth.Number
import FleetHealth.Fault.Basic
import FleetHealth.Json.Reader
import FleetHealth.Json.Writer
import FleetHealth.Metric.Catalog
import FleetHealth.Job.Schedule
import FleetHealth.Job.Runtime
import FleetHealth.Config.Basic
import FleetHealth.Repository.Aggregate
import FleetHealth.Log.Entry
import FleetHealth.Sink.Line
import FleetHealth.Sink.Reading
import FleetHealth.Emitter.Open
import FleetHealth.Reporter.Run
import FleetHealth.Sink.Instrument
import FleetHealth.MetricClient
import FleetHealth.Config.Pool
import FleetHealth.Log.Setup
import FleetHealth.Log.Storage
import FleetHealth.CommandLine.Basic
import FleetHealth.Main
import FleetHealth.Proofs.Emitter.Frame
import FleetHealth.Proofs.Emitter.Accounting
import FleetHealth.Proofs.Binary64.Whole
import FleetHealth.Proofs.Emitter.Locality
import FleetHealth.Proofs.Emitter.Sound
import FleetHealth.Proofs.Reporter.Contribution
import FleetHealth.Proofs.Reporter.Tick
import FleetHealth.Proofs.Reporter.Stop
import FleetHealth.Proofs.Binary64.Text
import FleetHealth.Proofs.Text.Split
import FleetHealth.Proofs.Sink.Line
import FleetHealth.Proofs.Sink.Relay
import FleetHealth.Proofs.Url.Parts
import FleetHealth.Proofs.Url.Redaction
import FleetHealth.Proofs.Emitter.Gate
import FleetHealth.Proofs.Emitter.Export
import FleetHealth.Proofs.Emitter.Lifecycle
import FleetHealth.Proofs.Reporter.Independence
import FleetHealth.Proofs.Reporter.Cadence
import FleetHealth.Proofs.Binary64.Sum
import FleetHealth.Proofs.Repository.Feed
import FleetHealth.Proofs.Reporter.Faultless
import FleetHealth.Proofs.Emitter.Contact
import FleetHealth.Proofs.Emitter.Disabled
import FleetHealth.Proofs.Reporter.Act
import FleetHealth.Proofs.Reporter.Numbering
import FleetHealth.Proofs.Reporter.History
import FleetHealth.Proofs.CommandLine.Session
import FleetHealth.Proofs.CommandLine.Release
import FleetHealth.Proofs.Binary64.Order
import FleetHealth.Proofs.Job.Schedule
import FleetHealth.Proofs.Repository.Total
import FleetHealth.Proofs.Config.Gate
import FleetHealth.Proofs.Emitter.Opening
import FleetHealth.Proofs.Emitter.Datagram
import FleetHealth.Proofs.Script
import FleetHealth.Proofs.Repository.Behind
import FleetHealth.Proofs.Repository.Runners
import FleetHealth.Proofs.Repository.Baseline
import FleetHealth.Proofs.Reporter.Success
import FleetHealth.Proofs.Json.RoundTrip
import FleetHealth.Proofs.Text.Casing
import FleetHealth.Proofs.Sink.Provider
import FleetHealth.Proofs.Job.Payload
import FleetHealth.Proofs.Config.Environment
import FleetHealth.Proofs.MetricClient
import FleetHealth.Proofs.Url.Query
import FleetHealth.Text.Order
import FleetHealth.Proofs.Reporter.Phase
import FleetHealth.Proofs.Config.Items
import FleetHealth.Proofs.Decimal.Numeral
import FleetHealth.Proofs.Config.Refusal
import FleetHealth.Proofs.Metric.Verdict
import FleetHealth.Proofs.Job.Runtime
import FleetHealth.Proofs.Config.Settings
import FleetHealth.Proofs.Json.Value
import FleetHealth.Json.Value
import FleetHealth.Sink.Provider
import FleetHealth.Sink.Batch
