import HeaderScan.Barrier.Basic
import HeaderScan.Barrier.Session
import HeaderScan.CommandLine.Invocation
import HeaderScan.CommandLine.Item
import HeaderScan.CommandLine.Mention
import HeaderScan.CommandLine.Refusal
import HeaderScan.Config.Basic
import HeaderScan.Config.Document
import HeaderScan.Count
import HeaderScan.Decimal.Binary
import HeaderScan.Decimal.Shortest
import HeaderScan.Domain.Direction
import HeaderScan.Domain.Joiner
import HeaderScan.Domain.Mapping
import HeaderScan.Domain.Name
import HeaderScan.Domain.Punycode
import HeaderScan.Duration
import HeaderScan.Files.Directory
import HeaderScan.Files.Path
import HeaderScan.Host
import HeaderScan.Http.ClientBuilder
import HeaderScan.Http.Field
import HeaderScan.Http.FieldLine
import HeaderScan.Http.Probe
import HeaderScan.Http.Request
import HeaderScan.Http.RequestError
import HeaderScan.Main
import HeaderScan.Pool.Basic
import HeaderScan.Pool.Channel
import HeaderScan.Pool.Polling
import HeaderScan.Pool.Session
import HeaderScan.Pool.Worker
import HeaderScan.Program
import HeaderScan.Queue.Basic
import HeaderScan.Queue.Session
import HeaderScan.Report.Statistics
import HeaderScan.Report.Style
import HeaderScan.Response
import HeaderScan.Scan.Basic
import HeaderScan.Scan.Launch
import HeaderScan.Scan.Network
import HeaderScan.Scan.Setup
import HeaderScan.Scan.Timeline
import HeaderScan.ScanConfig
import HeaderScan.ScanError
import HeaderScan.StatusCode
import HeaderScan.Summary
import HeaderScan.Targets
import HeaderScan.Text.Blank
import HeaderScan.Text.CombiningClass
import HeaderScan.Text.Composition
import HeaderScan.Text.Escape
import HeaderScan.Text.Ranges
import HeaderScan.Text.Similarity
import HeaderScan.Text.Table
import HeaderScan.Text.Unprintable
import HeaderScan.Text.Utf8
import HeaderScan.Toml.Error
import HeaderScan.Toml.Number
import HeaderScan.Toml.Outline
import HeaderScan.Toml.Section
import HeaderScan.Toml.Source
import HeaderScan.Toml.Token
import HeaderScan.Toml.Value
import HeaderScan.Url.Address
import HeaderScan.Url.Basic
import HeaderScan.Url.Ipv4
import HeaderScan.Url.Ipv6
import HeaderScan.Url.ParseError
import HeaderScan.Url.Parser
import HeaderScan.Url.Path
import HeaderScan.Url.Percent
import HeaderScan.Url.Scheme
import HeaderScan.Proofs.Pool.Phases
import HeaderScan.Proofs.Pool.Moves
import HeaderScan.Proofs.Pool.Events
import HeaderScan.Proofs.Pool.Polling
import HeaderScan.Proofs.Pool.History
import HeaderScan.Proofs.Pool.Custody
import HeaderScan.Proofs.Pool.Shares
import HeaderScan.Proofs.Scan.Run
import HeaderScan.Proofs.Scan.Conduct
import HeaderScan.Proofs.Scan.Exits
import HeaderScan.Proofs.Pool.Hands
import HeaderScan.Proofs.Scan.Partition
import HeaderScan.Proofs.Scan.Undisturbed
import HeaderScan.Proofs.Scan.Termination
import HeaderScan.Proofs.Scan.Quiescence
import HeaderScan.Proofs.Pool.Cancelled
import HeaderScan.Proofs.Scan.Cancelled
import HeaderScan.Proofs.Scan.Completion
import HeaderScan.Proofs.Queue.Serving
import HeaderScan.Proofs.Queue.Settling
import HeaderScan.Proofs.Pool.Session
import HeaderScan.Proofs.Queue.Commands
import HeaderScan.Proofs.Queue.Story
import HeaderScan.Proofs.Queue.Order
import HeaderScan.Proofs.Queue.Outcomes
import HeaderScan.Proofs.Barrier.Waits
import HeaderScan.Proofs.Scan.Backpressure
import HeaderScan.Proofs.Scan.Moment
import HeaderScan.Proofs.Scan.Timeline
import HeaderScan.Proofs.Scan.Launch
import HeaderScan.Proofs.Scan.Reporting
import HeaderScan.Proofs.Program.Endings
import HeaderScan.Proofs.Program.Checks
import HeaderScan.Proofs.Program.Report
import HeaderScan.Proofs.Program.Targets
import HeaderScan.Proofs.Program.HostsFiles
import HeaderScan.Proofs.Program.Matches
import HeaderScan.Proofs.Text.Lines
import HeaderScan.Proofs.Text.Utf8
import HeaderScan.Proofs.Config.Merge
import HeaderScan.Proofs.Config.Defaults
import HeaderScan.Proofs.Report.Failures
import HeaderScan.Proofs.Report.ResponseLines
import HeaderScan.Proofs.Report.Figures
import HeaderScan.Proofs.Report.Messages
import HeaderScan.Proofs.Http.FieldMap
import HeaderScan.Proofs.Http.FieldLines
import HeaderScan.Proofs.Http.Builds
import HeaderScan.Proofs.Http.Statuses
import HeaderScan.Proofs.Pool.Accounts
