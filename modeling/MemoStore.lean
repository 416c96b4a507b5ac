import MemoStore.Main
import MemoStore.Proofs.Failure.Messages
import MemoStore.Proofs.Schema.Transactions
import MemoStore.Proofs.Schema.Steps
import MemoStore.Proofs.Schema.Course
import MemoStore.Proofs.Schema.Scripted
import MemoStore.Proofs.Schema.Attempts
import MemoStore.Proofs.Schema.Interleavings
import MemoStore.Proofs.Script.Joining
import MemoStore.Record.Query
import MemoStore.Schema.Scripted
import MemoStore.Store.Request
import MemoStore.Proofs.Store.SetUp
import MemoStore.Proofs.Store.Deletions
import MemoStore.Proofs.Store.Runs
import MemoStore.Proofs.Store.Cascade
import MemoStore.Proofs.Store.Refusals
import MemoStore.Proofs.Store.Keys
import MemoStore.Proofs.Store.Breaches
import MemoStore.Proofs.Store.Decisions
import MemoStore.Proofs.Store.Verdicts
import MemoStore.Proofs.Store.Cells
import MemoStore.Proofs.Store.Writes
import MemoStore.Proofs.Store.Frames
import MemoStore.Proofs.Store.Alike
import MemoStore.Proofs.Store.Variants
import MemoStore.Proofs.Store.History
import MemoStore.Proofs.Store.Relations
import MemoStore.Proofs.Store.Touches
import MemoStore.Proofs.Document.Tables
import MemoStore.Proofs.Document.Layout
import MemoStore.Proofs.Document.Reading
import MemoStore.Proofs.Json.Reading
import MemoStore.Proofs.Opening.Visits
import MemoStore.Proofs.Command.Documents
import MemoStore.Proofs.Script.Tidying
import MemoStore.Proofs.Failure.Labels
import MemoStore.Proofs.Failure.Columns
import MemoStore.Proofs.Store.Scopes
import MemoStore.Proofs.Script.Sections
import MemoStore.Proofs.Script.Layout
import MemoStore.Proofs.Script.Markers
import MemoStore.Proofs.Opening.Preparation
import MemoStore.Proofs.Settings.Variables
