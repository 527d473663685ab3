import Switchboard.Backend.Basic
import Switchboard.Backend.Chat
import Switchboard.Backend.Command
import Switchboard.Backend.Echo
import Switchboard.Backend.Script
import Switchboard.Cache.Basic
import Switchboard.Cache.Record
import Switchboard.Cache.Writer
import Switchboard.Call.Plan
import Switchboard.CommandLine.Arguments
import Switchboard.CommandLine.LogReport
import Switchboard.CommandLine.Session
import Switchboard.CommandLine.Tables
import Switchboard.Config.Basic
import Switchboard.Config.Validation
import Switchboard.Data.Node
import Switchboard.Data.Record
import Switchboard.Disk.Basic
import Switchboard.Disk.Path
import Switchboard.Engine
import Switchboard.Error
import Switchboard.Glob.Match
import Switchboard.Glob.Pattern
import Switchboard.Index.Document
import Switchboard.Index.Reading
import Switchboard.Index.Rendering
import Switchboard.Index.Search
import Switchboard.Json.Number
import Switchboard.Json.Printer
import Switchboard.Json.Reader
import Switchboard.Main
import Switchboard.Model.Profile
import Switchboard.Model.Ranking
import Switchboard.Model.Registry
import Switchboard.Number.Decimal
import Switchboard.Number.Scientific
import Switchboard.Number.Word
import Switchboard.Package.Assembly
import Switchboard.Package.Basic
import Switchboard.Package.Dependency
import Switchboard.Proofs.Cache.Crowd
import Switchboard.Proofs.Cache.CutShort
import Switchboard.Proofs.Cache.Failure
import Switchboard.Proofs.Cache.Freshness
import Switchboard.Proofs.Cache.History
import Switchboard.Proofs.Cache.Location
import Switchboard.Proofs.Cache.Lookup
import Switchboard.Proofs.Cache.Opening
import Switchboard.Proofs.Cache.Persistence
import Switchboard.Proofs.Cache.Provenance
import Switchboard.Proofs.Cache.Request
import Switchboard.Proofs.Cache.Rivals
import Switchboard.Proofs.Cache.Sharing
import Switchboard.Proofs.Cache.Staleness
import Switchboard.Proofs.Cache.Turns
import Switchboard.Proofs.Cache.Writer
import Switchboard.Proofs.Calendar
import Switchboard.Proofs.Call.Chunks
import Switchboard.Proofs.Call.Completeness
import Switchboard.Proofs.Call.Fewest
import Switchboard.Proofs.Call.Order
import Switchboard.Proofs.Call.Outputs
import Switchboard.Proofs.Call.Window
import Switchboard.Proofs.Config.Models
import Switchboard.Proofs.Data.Member
import Switchboard.Proofs.Data.Record
import Switchboard.Proofs.Disk.Orderly
import Switchboard.Proofs.Disk.Place
import Switchboard.Proofs.Disk.Room
import Switchboard.Proofs.Disk.Sibling
import Switchboard.Proofs.Engine.Append
import Switchboard.Proofs.Engine.Batch
import Switchboard.Proofs.Engine.Log
import Switchboard.Proofs.Engine.Start
import Switchboard.Proofs.Glob.Directory
import Switchboard.Proofs.Index.Document
import Switchboard.Proofs.Index.Parsing
import Switchboard.Proofs.Index.Ranking
import Switchboard.Proofs.Index.Search
import Switchboard.Proofs.Index.WordOrder
import Switchboard.Proofs.Json.Grammar
import Switchboard.Proofs.Json.Outcome
import Switchboard.Proofs.Json.RoundTrip
import Switchboard.Proofs.Json.SingleLine
import Switchboard.Proofs.Model.Ranking
import Switchboard.Proofs.Number.Digits
import Switchboard.Proofs.Package.Filtering
import Switchboard.Proofs.Package.Greedy
import Switchboard.Proofs.Package.Hints
import Switchboard.Proofs.Package.Matching
import Switchboard.Proofs.Package.Naming
import Switchboard.Proofs.Package.Precedence
import Switchboard.Proofs.Package.Query
import Switchboard.Proofs.Package.Tally
import Switchboard.Proofs.Queue.Alone
import Switchboard.Proofs.Queue.Clock
import Switchboard.Proofs.Queue.Completion
import Switchboard.Proofs.Queue.Crew
import Switchboard.Proofs.Queue.Dispatch
import Switchboard.Proofs.Queue.Drive
import Switchboard.Proofs.Queue.Floor
import Switchboard.Proofs.Queue.Forecast
import Switchboard.Proofs.Queue.Interleaving
import Switchboard.Proofs.Queue.Processing
import Switchboard.Proofs.Queue.Slots
import Switchboard.Proofs.Route.Asking
import Switchboard.Proofs.Route.Bounds
import Switchboard.Proofs.Route.Cancellation
import Switchboard.Proofs.Route.Cost
import Switchboard.Proofs.Route.Exhaustion
import Switchboard.Proofs.Route.Grammar
import Switchboard.Proofs.Route.Job
import Switchboard.Proofs.Route.Journey
import Switchboard.Proofs.Route.Log
import Switchboard.Proofs.Route.Reached
import Switchboard.Proofs.Route.Repetition
import Switchboard.Proofs.Route.Result
import Switchboard.Proofs.Route.Selection
import Switchboard.Proofs.Route.Statistics
import Switchboard.Proofs.Route.Termination
import Switchboard.Proofs.Route.Torn
import Switchboard.Proofs.Source.Declarations
import Switchboard.Proofs.Source.Decoding
import Switchboard.Proofs.Source.Hidden
import Switchboard.Proofs.Source.Listing
import Switchboard.Proofs.Source.Tree
import Switchboard.Proofs.StableSort
import Switchboard.Proofs.Text.ByteOrder
import Switchboard.Proofs.Text.Joined
import Switchboard.Proofs.Text.Lines
import Switchboard.Proofs.Text.Lowercase
import Switchboard.Proofs.Text.Pieces
import Switchboard.Proofs.Text.Utf8
import Switchboard.Proofs.Timestamp
import Switchboard.Queue.Basic
import Switchboard.Queue.Batch
import Switchboard.Queue.Operation
import Switchboard.Queue.Progress
import Switchboard.Queue.Shift
import Switchboard.Route.Attempt
import Switchboard.Route.Log
import Switchboard.Route.Machine
import Switchboard.Route.Plan
import Switchboard.Route.Run
import Switchboard.Route.Statistics
import Switchboard.Scenario.Basic
import Switchboard.Scenario.Registry
import Switchboard.Scenario.Rule
import Switchboard.Sha256
import Switchboard.Shell.Arithmetic
import Switchboard.Shell.CharSet
import Switchboard.Shell.Format
import Switchboard.Shell.Machine
import Switchboard.Shell.Options
import Switchboard.Shell.Parser
import Switchboard.Shell.Pattern
import Switchboard.Shell.Program
import Switchboard.Shell.Regex
import Switchboard.Shell.Run
import Switchboard.Shell.Session
import Switchboard.Shell.Syntax
import Switchboard.Shell.Utility
import Switchboard.Shell.Utility.Basic
import Switchboard.Shell.Utility.Edit
import Switchboard.Shell.Utility.Lines
import Switchboard.Shell.Utility.Record
import Switchboard.Shell.Utility.Record.Program
import Switchboard.Shell.Utility.Record.State
import Switchboard.Shell.Utility.Search
import Switchboard.Shell.Utility.Stream
import Switchboard.Source.Indexer
import Switchboard.Source.Scan
import Switchboard.Source.Tree
import Switchboard.Text.Alphanumeric
import Switchboard.Text.Basic
import Switchboard.Text.Blank
import Switchboard.Text.Class
import Switchboard.Text.Composition
import Switchboard.Text.Folding
import Switchboard.Text.Glyphless
import Switchboard.Text.Lowercase
import Switchboard.Text.Mark
import Switchboard.Text.Quoted
import Switchboard.Text.Utf8
import Switchboard.Timestamp
import Switchboard.Tokens
import Switchboard.Toml.Reader
import Switchboard.Toml.Scalar
import Switchboard.Url.Address
import Switchboard.Url.Basic
import Switchboard.Url.Direction
import Switchboard.Url.Domain
import Switchboard.Url.Escape
import Switchboard.Url.Punycode
