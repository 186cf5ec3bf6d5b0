import TableQuery.Builder.Session
import TableQuery.Connection.Cursor
import TableQuery.LibraryError
import TableQuery.Log.Setup
import TableQuery.Page
import TableQuery.Proofs.Session.Run
import TableQuery.Proofs.Veil.Builder
import TableQuery.Proofs.Veil.Terminal
import TableQuery.Proofs.Veil.Connection
import TableQuery.Proofs.Veil.Run
import TableQuery.Proofs.Placeholder.Places
import TableQuery.Proofs.Placeholder.Percent
import TableQuery.Proofs.Placeholder.Conversions
import TableQuery.Proofs.Builder.Text
import TableQuery.Proofs.Builder.Alignment
import TableQuery.Proofs.Builder.Pagination
import TableQuery.Proofs.Builder.Growth
import TableQuery.Proofs.Builder.Gate
import TableQuery.Proofs.Builder.Order
import TableQuery.Proofs.Condition.Marks
import TableQuery.Proofs.Condition.Reading
import TableQuery.Proofs.Condition.Writing
import TableQuery.Proofs.Condition.Truth
import TableQuery.Proofs.Condition.Atoms
import TableQuery.Proofs.Builder.Filter
import TableQuery.Proofs.Session.Overlap
import TableQuery.Proofs.Session.InTurn
import TableQuery.Proofs.Session.SingleUse
import TableQuery.Proofs.Session.Poison
import TableQuery.Proofs.Connection.Locks
import TableQuery.Proofs.Connection.Steps
import TableQuery.Proofs.Connection.Soundness
import TableQuery.Proofs.Connection.History
import TableQuery.Proofs.Connection.Ownership
import TableQuery.Proofs.Connection.Record
import TableQuery.Proofs.Connection.Account
import TableQuery.Proofs.Connection.Turns
import TableQuery.Proofs.Connection.Progress
import TableQuery.Proofs.Connection.Serial
import TableQuery.Proofs.Connection.Handover
import TableQuery.Proofs.Builder.Setting
import TableQuery.Proofs.Session.Clauses
import TableQuery.Proofs.Builder.Tail
import TableQuery.Proofs.Placeholder.Unquoted
import TableQuery.Proofs.Session.Bounds
import TableQuery.Proofs.Session.Reporting
import TableQuery.Proofs.Builder.PageRequest
import TableQuery.Proofs.Builder.Count
import TableQuery.Proofs.Number.Nearest
import TableQuery.Proofs.Number.Ceiling
import TableQuery.Proofs.Page.Count
import TableQuery.Proofs.Page.Walk
import TableQuery.Proofs.Builder.Shape
import TableQuery.Proofs.Session.Settled
import TableQuery.Proofs.Session.Refusal
import TableQuery.Proofs.Session.Retry
import TableQuery.Proofs.Statement.Grammar
import TableQuery.Proofs.Builder.Selection
import TableQuery.Proofs.Sql.Quotation
import TableQuery.Proofs.Placeholder.Quoted
import TableQuery.Proofs.Connection.Alone
import TableQuery.Proofs.Connection.Cleanup
import TableQuery.Proofs.Value.Distinct
import TableQuery.Proofs.Connection.Rows
import TableQuery.Proofs.Placeholder.Spans
import TableQuery.Proofs.Session.Scope
import TableQuery.Proofs.Builder.Journal
import TableQuery.Proofs.Connection.Log
import TableQuery.Proofs.Session.Journal
