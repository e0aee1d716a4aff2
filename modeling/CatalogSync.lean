import CatalogSync.Call
import CatalogSync.Catalog.AnyRecord
import CatalogSync.Catalog.Document
import CatalogSync.Catalog.Entity
import CatalogSync.Catalog.Record
import CatalogSync.Catalog.Transform
import CatalogSync.Cursor.Basic
import CatalogSync.Cursor.CursorMap
import CatalogSync.Daemon.CommandLine
import CatalogSync.Daemon.Help
import CatalogSync.Daemon.Pipelines
import CatalogSync.Daemon.Process
import CatalogSync.Database.Address
import CatalogSync.Database.Basic
import CatalogSync.Database.NetworkAddress
import CatalogSync.Database.Statement
import CatalogSync.Decimal.Binary
import CatalogSync.Decimal.Layout
import CatalogSync.Decimal.Reader
import CatalogSync.Decimal.Shortest
import CatalogSync.Error
import CatalogSync.Extract.Worker
import CatalogSync.Http.Basic
import CatalogSync.Http.Url
import CatalogSync.Json.Basic
import CatalogSync.Json.Decode
import CatalogSync.Json.Parser
import CatalogSync.Json.Printer
import CatalogSync.Load.Basic
import CatalogSync.Load.Batch
import CatalogSync.Load.BulkBody
import CatalogSync.Load.BulkIndex
import CatalogSync.Load.BulkReply
import CatalogSync.Main
import CatalogSync.NameMap
import CatalogSync.Pass.Pipeline
import CatalogSync.Pass.Report
import CatalogSync.Proofs.Call.Ends
import CatalogSync.Proofs.Call.Mirror
import CatalogSync.Proofs.Call.Retry
import CatalogSync.Proofs.Catalog.Cast
import CatalogSync.Proofs.Catalog.Documents
import CatalogSync.Proofs.Catalog.Edits
import CatalogSync.Proofs.Catalog.Rating
import CatalogSync.Proofs.Catalog.Settled
import CatalogSync.Proofs.Catalog.Tables
import CatalogSync.Proofs.Decimal.Overflow
import CatalogSync.Proofs.Decimal.Parts
import CatalogSync.Proofs.Extract.Conversation
import CatalogSync.Proofs.Extract.Paging
import CatalogSync.Proofs.Extract.Steps
import CatalogSync.Proofs.Extract.Turns
import CatalogSync.Proofs.Json.Compact
import CatalogSync.Proofs.Json.Extension
import CatalogSync.Proofs.Json.Spelling
import CatalogSync.Proofs.Load.Buffer
import CatalogSync.Proofs.Load.BulkBody
import CatalogSync.Proofs.Load.Conservation
import CatalogSync.Proofs.Load.Replay
import CatalogSync.Proofs.Order
import CatalogSync.Proofs.Pass.Apart
import CatalogSync.Proofs.Pass.Closing
import CatalogSync.Proofs.Pass.Commit
import CatalogSync.Proofs.Pass.Drain
import CatalogSync.Proofs.Pass.Forward
import CatalogSync.Proofs.Pass.Gating
import CatalogSync.Proofs.Pass.Log
import CatalogSync.Proofs.Pass.Mirror
import CatalogSync.Proofs.Pass.Reckoning
import CatalogSync.Proofs.Pass.Rule
import CatalogSync.Proofs.Pass.Totals
import CatalogSync.Proofs.Pass.Unchanging
import CatalogSync.Proofs.Pass.Yield
import CatalogSync.Proofs.Retry.Attempts
import CatalogSync.Proofs.Retry.Delays
import CatalogSync.Proofs.Schedule.Cycles
import CatalogSync.Proofs.Schedule.Forward
import CatalogSync.Proofs.Schedule.Journal
import CatalogSync.Proofs.Schedule.Order
import CatalogSync.Proofs.Schedule.Recorded
import CatalogSync.Proofs.Schedule.Shutdown
import CatalogSync.Proofs.Schedule.Statuses
import CatalogSync.Proofs.Session.Attempts
import CatalogSync.Proofs.Session.Calls
import CatalogSync.Proofs.Session.Contract
import CatalogSync.Proofs.Session.Fetching
import CatalogSync.Proofs.Session.NoLeak
import CatalogSync.Proofs.Session.Probing
import CatalogSync.Proofs.Session.Releasing
import CatalogSync.Proofs.Session.Resuming
import CatalogSync.Proofs.Session.ScanPages
import CatalogSync.Proofs.Session.Server
import CatalogSync.Proofs.Session.Steps
import CatalogSync.Proofs.Session.Transactions
import CatalogSync.Proofs.Session.Transcript
import CatalogSync.Proofs.Settings.Acceptance
import CatalogSync.Proofs.Settings.Leaves
import CatalogSync.Proofs.Settings.Precedence
import CatalogSync.Proofs.Settings.Writes
import CatalogSync.Proofs.Source.Pages
import CatalogSync.Proofs.Store.Atomicity
import CatalogSync.Proofs.Store.Book
import CatalogSync.Proofs.Store.CursorFile
import CatalogSync.Proofs.Store.CursorText
import CatalogSync.Proofs.Store.FileSystem
import CatalogSync.Proofs.Store.Temporary
import CatalogSync.Proofs.Store.TornFile
import CatalogSync.Proofs.Sync.AtRest
import CatalogSync.Proofs.Sync.CaughtUp
import CatalogSync.Proofs.Sync.Contract
import CatalogSync.Proofs.Sync.Drain
import CatalogSync.Proofs.Sync.NoLostUpdate
import CatalogSync.Proofs.Sync.Quiet
import CatalogSync.Proofs.Sync.Replica
import CatalogSync.Proofs.Sync.Scan
import CatalogSync.Proofs.Timestamp.Reading
import CatalogSync.Retry.Backoff
import CatalogSync.Retry.Printer
import CatalogSync.Retry.Run
import CatalogSync.Schedule.Scheduler
import CatalogSync.Schedule.Status
import CatalogSync.Script.Clock
import CatalogSync.Script.Database
import CatalogSync.Script.Job
import CatalogSync.Script.Loader
import CatalogSync.Script.Server
import CatalogSync.Script.Source
import CatalogSync.Script.World
import CatalogSync.Settings.Basic
import CatalogSync.Settings.Coercion
import CatalogSync.Settings.Files
import CatalogSync.Settings.Load
import CatalogSync.Settings.Tree
import CatalogSync.Settings.Validation
import CatalogSync.Settings.Variables
import CatalogSync.Source.Basic
import CatalogSync.Source.PageFill
import CatalogSync.Source.Query
import CatalogSync.Source.Relational
import CatalogSync.Store.Basic
import CatalogSync.Store.Book
import CatalogSync.Store.CursorFile
import CatalogSync.Store.FileSystem
import CatalogSync.Store.Path
import CatalogSync.Text.Blank
import CatalogSync.Text.Hexadecimal
import CatalogSync.Text.Percent
import CatalogSync.Text.Quoted
import CatalogSync.Text.Unprintable
import CatalogSync.Text.Utf8
import CatalogSync.Timestamp.Basic
import CatalogSync.Timestamp.Printer
import CatalogSync.Timestamp.Reader
import CatalogSync.Toml.Lexeme
import CatalogSync.Toml.Reader
import CatalogSync.Toml.Table
