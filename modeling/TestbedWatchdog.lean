import TestbedWatchdog.Act
import TestbedWatchdog.CommandLine
import TestbedWatchdog.CommandLine.Argument
import TestbedWatchdog.CommandLine.Given
import TestbedWatchdog.CommandLine.Manual
import TestbedWatchdog.CommandLine.Numeral
import TestbedWatchdog.CommandLine.Reader
import TestbedWatchdog.Config.Decoding
import TestbedWatchdog.Config.Loading
import TestbedWatchdog.Config.Settings
import TestbedWatchdog.Config.Validation
import TestbedWatchdog.Decimal.Shortest
import TestbedWatchdog.Error
import TestbedWatchdog.Host.Table
import TestbedWatchdog.Ledger
import TestbedWatchdog.Listing
import TestbedWatchdog.Log
import TestbedWatchdog.Main
import TestbedWatchdog.Monitor
import TestbedWatchdog.PowerSwitch
import TestbedWatchdog.Probe.Ping
import TestbedWatchdog.Probe.Report
import TestbedWatchdog.Program
import TestbedWatchdog.Rehearsal.Clock
import TestbedWatchdog.Rehearsal.Directory
import TestbedWatchdog.Rehearsal.Drill
import TestbedWatchdog.Rehearsal.Toolbox
import TestbedWatchdog.Session
import TestbedWatchdog.Session.Detection
import TestbedWatchdog.Text.Blank
import TestbedWatchdog.Text.Json
import TestbedWatchdog.Text.Lines
import TestbedWatchdog.Text.Printable
import TestbedWatchdog.Text.Quoted
import TestbedWatchdog.Text.Utf8
import TestbedWatchdog.Toml.Assembly
import TestbedWatchdog.Toml.Document
import TestbedWatchdog.Toml.Mismatch
import TestbedWatchdog.Toml.Moment
import TestbedWatchdog.Toml.Number
import TestbedWatchdog.Toml.Reader
import TestbedWatchdog.Toml.Statement
import TestbedWatchdog.Toml.Text
import TestbedWatchdog.Toml.Value
import TestbedWatchdog.Tool
import TestbedWatchdog.Warden
import TestbedWatchdog.Proofs.Ledger.Observation
import TestbedWatchdog.Proofs.Course
import TestbedWatchdog.Proofs.Course.Host
import TestbedWatchdog.Proofs.Outage
import TestbedWatchdog.Proofs.RebootRate
import TestbedWatchdog.Proofs.Text.Words
import TestbedWatchdog.Proofs.Probe.Report
import TestbedWatchdog.Proofs.Probe.Ping
import TestbedWatchdog.Proofs.Evidence
import TestbedWatchdog.Proofs.Config.Validation
import TestbedWatchdog.Proofs.Forgetting
import TestbedWatchdog.Proofs.Ledger.History
import TestbedWatchdog.Proofs.Independence
import TestbedWatchdog.Proofs.RaisedLimits
import TestbedWatchdog.Proofs.Budget
import TestbedWatchdog.Proofs.Session.MaterializationLine
import TestbedWatchdog.Proofs.Text.Lines
import TestbedWatchdog.Proofs.Session.Display
import TestbedWatchdog.Proofs.Probe.Transcript
import TestbedWatchdog.Proofs.Session.Detection
import TestbedWatchdog.Proofs.PowerSwitch
import TestbedWatchdog.Proofs.Watch
import TestbedWatchdog.Proofs.Text.ByteOrder
import TestbedWatchdog.Proofs.SinglePass
import TestbedWatchdog.Proofs.DryRun
import TestbedWatchdog.Proofs.Ledger.HostStep
import TestbedWatchdog.Proofs.Probe.StatusPattern
import TestbedWatchdog.Proofs.Probe.Clash
import TestbedWatchdog.Proofs.Reporting
import TestbedWatchdog.Proofs.Text.Utf8
import TestbedWatchdog.Proofs.Probe.Merge
import TestbedWatchdog.Proofs.Text.FirstLine
import TestbedWatchdog.Proofs.Probe.Outcome
import TestbedWatchdog.Proofs.Watchable
import TestbedWatchdog.Proofs.Probe.AllowList
import TestbedWatchdog.Proofs.Session.Attachment
import TestbedWatchdog.Proofs.CycleLog
import TestbedWatchdog.Proofs.Config.Decoding
import TestbedWatchdog.Proofs.Config.FirstDefect
import TestbedWatchdog.Proofs.WatchSettings
import TestbedWatchdog.Proofs.ProbeListings
import TestbedWatchdog.Proofs.CommandLine.RoundTrip
import TestbedWatchdog.Proofs.Ledger.Representation
