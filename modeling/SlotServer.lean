import SlotServer.Bounded
import SlotServer.Capability
import SlotServer.Capability.OnDisk
import SlotServer.Capability.Scripted
import SlotServer.Command
import SlotServer.Command.Record
import SlotServer.Config.CommandLine
import SlotServer.Config.Json
import SlotServer.Config.Setting
import SlotServer.Config.Settings
import SlotServer.Config.Usage
import SlotServer.Decimal.Places
import SlotServer.Decimal.Shortest
import SlotServer.Disk
import SlotServer.Disk.Machine
import SlotServer.Dispatch
import SlotServer.Fault
import SlotServer.Json.Error
import SlotServer.Json.Lexeme
import SlotServer.Json.Numeral
import SlotServer.Json.Record
import SlotServer.Json.Scalar
import SlotServer.Json.Skip
import SlotServer.Json.Written
import SlotServer.Lifecycle
import SlotServer.Log.Event
import SlotServer.Log.Filter
import SlotServer.Log.Line
import SlotServer.Log.SlotEvents
import SlotServer.Log.Telemetry
import SlotServer.Log.Thread
import SlotServer.Main
import SlotServer.Net.Endpoint
import SlotServer.Net.Host
import SlotServer.Net.Ip
import SlotServer.Net.Network
import SlotServer.Program
import SlotServer.Proofs.Dispatch.Local
import SlotServer.Proofs.Slots.Holder
import SlotServer.Proofs.Slots.Run
import SlotServer.Proofs.Slots.Table
import SlotServer.Proofs.Transfer.Receiving
import SlotServer.Proofs.Transfer.Sending
import SlotServer.Proofs.Worker.Exchange
import SlotServer.Proofs.Worker.Secrecy
import SlotServer.Regex.Reader
import SlotServer.Regex.Support
import SlotServer.Regex.Syntax
import SlotServer.Server.Error
import SlotServer.Server.Run
import SlotServer.Server.Session
import SlotServer.Shell.Arithmetic
import SlotServer.Shell.Builtin.Basic
import SlotServer.Shell.Builtin.Control
import SlotServer.Shell.Builtin.Names
import SlotServer.Shell.Builtin.Output
import SlotServer.Shell.Channel
import SlotServer.Shell.Condition
import SlotServer.Shell.Expansion
import SlotServer.Shell.Fields
import SlotServer.Shell.Format
import SlotServer.Shell.Format.Real
import SlotServer.Shell.Lookup
import SlotServer.Shell.Number
import SlotServer.Shell.Pattern
import SlotServer.Shell.Permission
import SlotServer.Shell.Process
import SlotServer.Shell.Redirection
import SlotServer.Shell.Regular.Search
import SlotServer.Shell.Regular.Syntax
import SlotServer.Shell.Run
import SlotServer.Shell.Script
import SlotServer.Shell.Script.Reader
import SlotServer.Shell.Script.Source
import SlotServer.Shell.Setting
import SlotServer.Shell.Signal
import SlotServer.Shell.State
import SlotServer.Shell.Utility
import SlotServer.Shell.Utility.Amount
import SlotServer.Shell.Utility.Basic
import SlotServer.Shell.Utility.Blocks
import SlotServer.Shell.Utility.Calendar
import SlotServer.Shell.Utility.Columns
import SlotServer.Shell.Utility.Comparison
import SlotServer.Shell.Utility.Copying
import SlotServer.Shell.Utility.Counting
import SlotServer.Shell.Utility.Digest
import SlotServer.Shell.Utility.Dump
import SlotServer.Shell.Utility.Editor
import SlotServer.Shell.Utility.Editor.Command
import SlotServer.Shell.Utility.Editor.Reader
import SlotServer.Shell.Utility.Editor.Run
import SlotServer.Shell.Utility.Finding
import SlotServer.Shell.Utility.Inspecting
import SlotServer.Shell.Utility.Listing
import SlotServer.Shell.Utility.Machine
import SlotServer.Shell.Utility.Making
import SlotServer.Shell.Utility.Matching
import SlotServer.Shell.Utility.Numbers
import SlotServer.Shell.Utility.Options
import SlotServer.Shell.Utility.Order
import SlotServer.Shell.Utility.Pages
import SlotServer.Shell.Utility.Paths
import SlotServer.Shell.Utility.Quoting
import SlotServer.Shell.Utility.Removing
import SlotServer.Shell.Utility.Running
import SlotServer.Shell.Utility.Testing
import SlotServer.Shell.Utility.Translation
import SlotServer.Shell.Utility.Words
import SlotServer.Sink
import SlotServer.Slots.Lease
import SlotServer.Slots.Table
import SlotServer.Text.Alphanumeric
import SlotServer.Text.Blank
import SlotServer.Text.Integer
import SlotServer.Text.Number
import SlotServer.Text.Plain
import SlotServer.Text.Printable
import SlotServer.Text.Quoted
import SlotServer.Text.Reader
import SlotServer.Text.Similarity
import SlotServer.Text.Split
import SlotServer.Text.Utf8
import SlotServer.Transfer.Reading
import SlotServer.Transfer.Writing
import SlotServer.Worker
import SlotServer.Proofs.Command.Layout
import SlotServer.Proofs.Command.Writing
import SlotServer.Proofs.Dispatch.Store
import SlotServer.Proofs.Server.Admission
import SlotServer.Proofs.Server.Isolation
import SlotServer.Proofs.Server.Schedules
import SlotServer.Proofs.Slots.Accounting
import SlotServer.Proofs.Worker.Confinement
import SlotServer.Proofs.Server.Stopping
import SlotServer.Proofs.Config.Resolution
import SlotServer.Proofs.Config.Json
import SlotServer.Proofs.Log.Telemetry
import SlotServer.Proofs.Dispatch.Retrieval
import SlotServer.Proofs.Server.Lifecycle
import SlotServer.Proofs.Log.Attribution
import SlotServer.Proofs.Transfer.Losses
import SlotServer.Proofs.Transfer.Interruptions
import SlotServer.Proofs.Worker.Interruptions
import SlotServer.Proofs.Dispatch.Output
import SlotServer.Proofs.Command.Separation
import SlotServer.Proofs.Slots.Order
import SlotServer.Proofs.Worker.Printing
import SlotServer.Proofs.Net.Listening
import SlotServer.Proofs.Config.Counts
import SlotServer.Proofs.Worker.Acknowledgements
