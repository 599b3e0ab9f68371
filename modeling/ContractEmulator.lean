import ContractEmulator.Artifact
import ContractEmulator.CommandLine.Report
import ContractEmulator.CommandLine.Request
import ContractEmulator.CommandLine.Style
import ContractEmulator.Contract.Builtin
import ContractEmulator.Contract.Logic
import ContractEmulator.Database.Basic
import ContractEmulator.Database.Memory
import ContractEmulator.Database.Recorded
import ContractEmulator.Decimal.Shortest
import ContractEmulator.Descriptor
import ContractEmulator.Digest.Sha256
import ContractEmulator.Engine.Basic
import ContractEmulator.Engine.Summary
import ContractEmulator.Engine.World
import ContractEmulator.Failure
import ContractEmulator.Files.Path
import ContractEmulator.Files.Reader
import ContractEmulator.Files.Tree
import ContractEmulator.Function.Builtin
import ContractEmulator.Function.Logic
import ContractEmulator.Function.Manager
import ContractEmulator.Identity
import ContractEmulator.Json.Basic
import ContractEmulator.Json.Node
import ContractEmulator.Json.Number
import ContractEmulator.Json.Printer
import ContractEmulator.Json.Reader
import ContractEmulator.Json.Record
import ContractEmulator.Json.Shape
import ContractEmulator.Json.Token
import ContractEmulator.Ledger.Basic
import ContractEmulator.Ledger.Made
import ContractEmulator.Ledger.Memory
import ContractEmulator.Ledger.Recorded
import ContractEmulator.Loader
import ContractEmulator.Log.Event
import ContractEmulator.Log.FieldValue
import ContractEmulator.Log.Filter
import ContractEmulator.Main
import ContractEmulator.OrderedMap
import ContractEmulator.Pattern.Basic
import ContractEmulator.Pattern.Reader
import ContractEmulator.Program
import ContractEmulator.Proofs.Call.Conduit
import ContractEmulator.Proofs.Call.Context
import ContractEmulator.Proofs.Call.Direct
import ContractEmulator.Proofs.Call.Execution
import ContractEmulator.Proofs.Call.Frame
import ContractEmulator.Proofs.Call.Functions
import ContractEmulator.Proofs.Call.Held
import ContractEmulator.Proofs.Call.Lifetime
import ContractEmulator.Proofs.Call.Story
import ContractEmulator.Proofs.CommandLine.Script
import ContractEmulator.Proofs.Contract.Builtin
import ContractEmulator.Proofs.Contract.Handed
import ContractEmulator.Proofs.Contract.Paging
import ContractEmulator.Proofs.Contract.Questions
import ContractEmulator.Proofs.Contract.Validation
import ContractEmulator.Proofs.Database.History
import ContractEmulator.Proofs.Descriptor
import ContractEmulator.Proofs.Engine.Builtin
import ContractEmulator.Proofs.Engine.Fetch
import ContractEmulator.Proofs.Engine.Frame
import ContractEmulator.Proofs.Engine.History
import ContractEmulator.Proofs.Engine.Outcome
import ContractEmulator.Proofs.Engine.SingleLoad
import ContractEmulator.Proofs.Engine.Stamps
import ContractEmulator.Proofs.Engine.Warnings
import ContractEmulator.Proofs.Function.Builtin
import ContractEmulator.Proofs.Function.History
import ContractEmulator.Proofs.Function.Resolve
import ContractEmulator.Proofs.Function.Service
import ContractEmulator.Proofs.Function.SingleLoad
import ContractEmulator.Proofs.Json.Document
import ContractEmulator.Proofs.Json.Fields
import ContractEmulator.Proofs.Json.Nulls
import ContractEmulator.Proofs.Json.Number
import ContractEmulator.Proofs.Json.Record
import ContractEmulator.Proofs.Json.Text
import ContractEmulator.Proofs.Json.Token
import ContractEmulator.Proofs.Ledger.Ages
import ContractEmulator.Proofs.Ledger.History
import ContractEmulator.Proofs.Ledger.Layered
import ContractEmulator.Proofs.Ledger.Versions
import ContractEmulator.Proofs.Loader
import ContractEmulator.Proofs.Lockstep
import ContractEmulator.Proofs.Registry
import ContractEmulator.Proofs.Replay
import ContractEmulator.Proofs.Script.Call
import ContractEmulator.Proofs.Script.Database
import ContractEmulator.Proofs.Script.Elements
import ContractEmulator.Proofs.Script.Failures
import ContractEmulator.Proofs.Script.Format
import ContractEmulator.Proofs.Script.History
import ContractEmulator.Proofs.Script.Loading
import ContractEmulator.Proofs.Script.Reads
import ContractEmulator.Proofs.Script.Report
import ContractEmulator.Proofs.Script.Text
import ContractEmulator.Proofs.Stored
import ContractEmulator.Proofs.Text.Utf8
import ContractEmulator.Proofs.Uncached.Engine
import ContractEmulator.Proofs.Uncached.Mirror
import ContractEmulator.Proofs.Uncached.Transparency
import ContractEmulator.Proofs.World.Handles
import ContractEmulator.Proofs.World.Host
import ContractEmulator.Proofs.World.Isolation
import ContractEmulator.Proofs.World.References
import ContractEmulator.Proofs.World.Task
import ContractEmulator.Proofs.World.Trace
import ContractEmulator.Registry
import ContractEmulator.Samples.Contracts
import ContractEmulator.Samples.Functions
import ContractEmulator.Script.Session
import ContractEmulator.Script.Step
import ContractEmulator.Text.Alphanumeric
import ContractEmulator.Text.Blank
import ContractEmulator.Text.Bytes
import ContractEmulator.Text.Hex
import ContractEmulator.Text.Quoted
import ContractEmulator.Text.Unprinted
import ContractEmulator.Text.Utf8
