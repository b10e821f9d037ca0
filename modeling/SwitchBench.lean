import SwitchBench.CommandLine.Outcome
import SwitchBench.CommandLine.Program
import SwitchBench.CommandLine.ScriptFile
import SwitchBench.CommandLine.Split
import SwitchBench.CommandLine.Usage
import SwitchBench.Decimal.Binary64
import SwitchBench.Decimal.Shortest
import SwitchBench.Decimal.Written
import SwitchBench.Dispatch.Command
import SwitchBench.Dispatch.Failure
import SwitchBench.Dispatch.Sink
import SwitchBench.Domain.Composition
import SwitchBench.Domain.Direction
import SwitchBench.Domain.Joining
import SwitchBench.Domain.Mapping
import SwitchBench.Domain.Mark
import SwitchBench.Domain.Name
import SwitchBench.Domain.Punycode
import SwitchBench.Endpoint.Endpoint
import SwitchBench.Endpoint.Ipv4
import SwitchBench.Endpoint.Ipv6
import SwitchBench.Endpoint.Resolution
import SwitchBench.Endpoint.Url
import SwitchBench.Files.Path
import SwitchBench.Files.Tree
import SwitchBench.Json.Record
import SwitchBench.Json.Scan
import SwitchBench.Json.Value
import SwitchBench.Json.Walk
import SwitchBench.Json.Writer
import SwitchBench.Main
import SwitchBench.Message.Reading
import SwitchBench.Message.Request
import SwitchBench.Message.Response
import SwitchBench.Message.Vocabulary
import SwitchBench.Pattern.Modes
import SwitchBench.Pattern.Sets
import SwitchBench.Pattern.Syntax
import SwitchBench.Run.Event
import SwitchBench.Run.Execution
import SwitchBench.Run.Runner
import SwitchBench.Run.Stand
import SwitchBench.Script.Problem
import SwitchBench.Script.Reading
import SwitchBench.Script.Safety
import SwitchBench.Script.Sequence
import SwitchBench.Script.Step
import SwitchBench.Server.Daemon
import SwitchBench.Server.Responder
import SwitchBench.Server.Router
import SwitchBench.Settings.Choice
import SwitchBench.Settings.Datum
import SwitchBench.Settings.Flags
import SwitchBench.Settings.Loading
import SwitchBench.Settings.LogFilter
import SwitchBench.Settings.Logging
import SwitchBench.Settings.Settings
import SwitchBench.Settings.Variables
import SwitchBench.Switch.Bench
import SwitchBench.Switch.Bus
import SwitchBench.Switch.Error
import SwitchBench.Switch.Id
import SwitchBench.Switch.Model
import SwitchBench.Switch.Roster
import SwitchBench.SystemError
import SwitchBench.Text.Alphanumeric
import SwitchBench.Text.Blank
import SwitchBench.Text.Bytes
import SwitchBench.Text.Case
import SwitchBench.Text.Cut
import SwitchBench.Text.Escape
import SwitchBench.Text.Lines
import SwitchBench.Text.Numeral
import SwitchBench.Text.Quoted
import SwitchBench.Text.Ranges
import SwitchBench.Toml.Document
import SwitchBench.Toml.Scalar
import SwitchBench.Toml.Strings
import SwitchBench.Toml.Tables
import SwitchBench.Proofs.Text.Pieces
import SwitchBench.Proofs.Script.Blocks
import SwitchBench.Proofs.Script.RoundTrip
import SwitchBench.Proofs.Json.Strings
import SwitchBench.Proofs.Json.Numbers
import SwitchBench.Proofs.Json.Values
import SwitchBench.Proofs.Json.Records
import SwitchBench.Proofs.Json.CutValues
import SwitchBench.Proofs.Json.CutRecords
import SwitchBench.Proofs.Message.Wire
import SwitchBench.Proofs.Message.Cuts
import SwitchBench.Proofs.Dispatch.Requests
import SwitchBench.Proofs.Dispatch.Roles
import SwitchBench.Proofs.Run.SafeSwitching
import SwitchBench.Proofs.Run.Ownership
import SwitchBench.Proofs.Switch.Operations
import SwitchBench.Proofs.Switch.Consistency
import SwitchBench.Proofs.Switch.Interleaving
import SwitchBench.Proofs.Server.Failures
import SwitchBench.Proofs.Script.Lowering
import SwitchBench.Proofs.Script.Accounts
import SwitchBench.Proofs.Run.Cycles
import SwitchBench.Proofs.Server.Ports
import SwitchBench.Proofs.Run.Interlock
import SwitchBench.Proofs.Switch.Memory
import SwitchBench.Proofs.Server.Clients
import SwitchBench.Proofs.Run.Admission
import SwitchBench.Proofs.CommandLine.Runs
import SwitchBench.Proofs.Server.Spellings
import SwitchBench.Proofs.Server.Alternation
import SwitchBench.Proofs.Run.Stops
import SwitchBench.Proofs.Run.Sessions
import SwitchBench.Proofs.Run.Lifecycle
import SwitchBench.Proofs.Run.Refusals
import SwitchBench.Proofs.Script.Groups
import SwitchBench.Proofs.Message.Layouts
import SwitchBench.Proofs.Run.Counters
import SwitchBench.Proofs.Script.Warnings
import SwitchBench.Proofs.Script.Asides
import SwitchBench.Proofs.Server.SoleSwitch
import SwitchBench.Proofs.CommandLine.Splitting
import SwitchBench.Proofs.Text.Quoting
import SwitchBench.Proofs.Endpoint.Ipv6
import SwitchBench.Proofs.Endpoint.RoundTrip
import SwitchBench.Proofs.Script.Layout
