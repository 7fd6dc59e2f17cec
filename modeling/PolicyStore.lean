import PolicyStore.Text.Blank
import PolicyStore.Text.Bytes
import PolicyStore.Text.Hex
import PolicyStore.Text.Numeral
import PolicyStore.Duration
import PolicyStore.Record
import PolicyStore.Interruption
import PolicyStore.StoreError
import PolicyStore.Counter
import PolicyStore.Settings
import PolicyStore.LogFormat
import PolicyStore.Decimal.Binary64
import PolicyStore.Decimal.Shortest
import PolicyStore.Text.Pieces
import PolicyStore.Text.RangeTable
import PolicyStore.Text.Unshown
import PolicyStore.Text.Quoted
import PolicyStore.Json.Numeral
import PolicyStore.Json.Fault
import PolicyStore.Json.Scan
import PolicyStore.Json.Number
import PolicyStore.Json.Skip
import PolicyStore.Json.Reader
import PolicyStore.Json.Choice
import PolicyStore.Json.RecordReader
import PolicyStore.Json.Tree
import PolicyStore.Json.TreeReader
import PolicyStore.Json.Printer
import PolicyStore.Digest.Blake3
import PolicyStore.Text.Punycode
import PolicyStore.Text.Combining
import PolicyStore.Text.Composition
import PolicyStore.Text.Normal
import PolicyStore.HostName.Valid
import PolicyStore.HostName.Mapping
import PolicyStore.HostName.Direction
import PolicyStore.HostName.Joining
import PolicyStore.HostName.Label
import PolicyStore.Url.Percent
import PolicyStore.Url.Fault
import PolicyStore.Url.Ipv4
import PolicyStore.Url.Ipv6
import PolicyStore.Url.Scheme
import PolicyStore.Url.Host
import PolicyStore.Url.Path
import PolicyStore.Url.Parse
import PolicyStore.Fingerprint
import PolicyStore.Domain
import PolicyStore.PolicyError
import PolicyStore.Namespace.Key
import PolicyStore.Namespace.Registry
import PolicyStore.Policy.Strategy
import PolicyStore.Policy.AllowList
import PolicyStore.Policy.RouteGroup
import PolicyStore.Policy.Basic
import PolicyStore.Policy.Snapshot
import PolicyStore.Policy.Delta
import PolicyStore.RecordStore.Request
import PolicyStore.RecordStore.Memory
import PolicyStore.RecordStore.Change
import PolicyStore.Interrupt
import PolicyStore.Service.Program
import PolicyStore.Service.Operation
import PolicyStore.Service
import PolicyStore.CommandLine.Failure
import PolicyStore.CommandLine.Report
import PolicyStore.CommandLine.PayloadFile
import PolicyStore.CommandLine.Command
import PolicyStore.CommandLine.Parameter
import PolicyStore.CommandLine.Level
import PolicyStore.CommandLine.Help
import PolicyStore.CommandLine.Invocation
import PolicyStore.CommandLine.Process
import PolicyStore.Database.Statement
import PolicyStore.Database.Reply
import PolicyStore.Database.Client
import PolicyStore.Database.Migration
import PolicyStore.Database.Script
import PolicyStore.Main
import PolicyStore.Proofs.Json.Spelling
import PolicyStore.Proofs.Json.Scanning
import PolicyStore.Proofs.Json.Skipping
import PolicyStore.Proofs.Json.Reading
import PolicyStore.Proofs.Json.RecordReading
import PolicyStore.Proofs.Json.Members
import PolicyStore.Proofs.Json.Printing
import PolicyStore.Proofs.Json.Unambiguous
import PolicyStore.Proofs.Json.Places
import PolicyStore.Proofs.Json.TreeReading
import PolicyStore.Proofs.Json.Sorting
import PolicyStore.Proofs.Json.Grammar
import PolicyStore.Proofs.Json.Accepting
import PolicyStore.Proofs.Json.Closing
import PolicyStore.Proofs.Json.Recognizing
import PolicyStore.Proofs.Maps
import PolicyStore.Proofs.Interrupt.Earliest
import PolicyStore.Proofs.Interrupt.Racing
import PolicyStore.Proofs.Interrupt.Reporting
import PolicyStore.Proofs.Interrupt.Watching
import PolicyStore.Proofs.Interrupting
import PolicyStore.Proofs.Policy.Rules
import PolicyStore.Proofs.Policy.Meaning
import PolicyStore.Proofs.Policy.RoundTrip
import PolicyStore.Proofs.Policy.Snapshots
import PolicyStore.Proofs.Policy.Polling
import PolicyStore.Proofs.Policy.Differences
import PolicyStore.Proofs.Policy.Documents
import PolicyStore.Proofs.Policy.Sorting
import PolicyStore.Proofs.Policy.Rereading
import PolicyStore.Proofs.Namespace.Keys
import PolicyStore.Proofs.Namespace.Registering
import PolicyStore.Proofs.Namespace.Reordering
import PolicyStore.Proofs.RecordStore.Scanning
import PolicyStore.Proofs.RecordStore.Reading
import PolicyStore.Proofs.RecordStore.Writing
import PolicyStore.Proofs.Service.Bulk
import PolicyStore.Proofs.Service.Direct
import PolicyStore.Proofs.Service.Failing
import PolicyStore.Proofs.Service.Forwarding
import PolicyStore.Proofs.Service.History
import PolicyStore.Proofs.Service.Polling
import PolicyStore.Proofs.Service.Storing
import PolicyStore.Proofs.Counters
import PolicyStore.Proofs.Settings
import PolicyStore.Proofs.RecordStore.History
import PolicyStore.Proofs.Service.Reorg
import PolicyStore.Proofs.Service.Sparing
import PolicyStore.Proofs.Service.Separation
import PolicyStore.Proofs.Service.Clients
import PolicyStore.Proofs.Service.Sharing
import PolicyStore.Proofs.RecordStore.Numbering
import PolicyStore.Proofs.RecordStore.Selecting
import PolicyStore.Proofs.Text.Order
import PolicyStore.Proofs.Text.Judging
import PolicyStore.Proofs.RecordStore.Prefixes
import PolicyStore.Proofs.Service.Loading
import PolicyStore.Proofs.Service.Filtering
import PolicyStore.Proofs.Service.Finding
import PolicyStore.Proofs.Service.TypedHistory
import PolicyStore.Proofs.Service.Offers
import PolicyStore.Proofs.Service.Asking
import PolicyStore.Proofs.Service.Cancelling
import PolicyStore.Proofs.CommandLine.Performing
import PolicyStore.Proofs.CommandLine.Viewing
import PolicyStore.Proofs.CommandLine.Fingerprints
import PolicyStore.Proofs.CommandLine.Changing
import PolicyStore.Proofs.CommandLine.ExitCodes
import PolicyStore.Proofs.CommandLine.Validating
import PolicyStore.Proofs.CommandLine.FeedingBack
import PolicyStore.Proofs.CommandLine.ReadingBack
import PolicyStore.Proofs.Database.Bounds
