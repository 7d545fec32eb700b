import SerialNumbers.Catalog.Basic
import SerialNumbers.Catalog.Preview
import SerialNumbers.Catalog.Query
import SerialNumbers.Catalog.Stock
import SerialNumbers.CommandLine.Arguments
import SerialNumbers.CommandLine.Command
import SerialNumbers.CommandLine.Run
import SerialNumbers.Contention.Batch
import SerialNumbers.Contention.Run
import SerialNumbers.Contention.Summary
import SerialNumbers.Context
import SerialNumbers.Database.Pool
import SerialNumbers.Failure
import SerialNumbers.Fields
import SerialNumbers.Findings
import SerialNumbers.History
import SerialNumbers.Issuer
import SerialNumbers.Journal
import SerialNumbers.Journal.Line
import SerialNumbers.Journal.Message
import SerialNumbers.LogEntry
import SerialNumbers.Main
import SerialNumbers.Number.Decimal
import SerialNumbers.Number.Double
import SerialNumbers.Number.Sample
import SerialNumbers.Number.Shortest
import SerialNumbers.Pattern.Branches
import SerialNumbers.Pattern.Condition
import SerialNumbers.Pattern.Evaluation
import SerialNumbers.Pattern.Matcher
import SerialNumbers.Pattern.Syntax
import SerialNumbers.Pattern.Template
import SerialNumbers.Pattern.Token
import SerialNumbers.Period
import SerialNumbers.Proofs.Catalog
import SerialNumbers.Proofs.Concurrency.ExactlyOnce
import SerialNumbers.Proofs.Concurrency.Exclusion
import SerialNumbers.Proofs.Concurrency.Numbers
import SerialNumbers.Proofs.Concurrency.Ownership
import SerialNumbers.Proofs.Concurrency.Serial
import SerialNumbers.Proofs.Concurrency.World
import SerialNumbers.Proofs.Contention.Collected
import SerialNumbers.Proofs.Contention.Crew
import SerialNumbers.Proofs.Contention.Exact
import SerialNumbers.Proofs.Contention.Unbroken
import SerialNumbers.Proofs.Contention.Verdict
import SerialNumbers.Proofs.Contention.Worker
import SerialNumbers.Proofs.Context
import SerialNumbers.Proofs.Database.ConnectionText
import SerialNumbers.Proofs.Database.Pool
import SerialNumbers.Proofs.Distinct
import SerialNumbers.Proofs.Handle
import SerialNumbers.Proofs.History
import SerialNumbers.Proofs.Lookahead
import SerialNumbers.Proofs.Numbering.Limited
import SerialNumbers.Proofs.Numbering.Periodic
import SerialNumbers.Proofs.Number.Decimal
import SerialNumbers.Proofs.Number.Numeral
import SerialNumbers.Proofs.Number.Reading
import SerialNumbers.Proofs.Override
import SerialNumbers.Proofs.Pattern.Branching
import SerialNumbers.Proofs.Pattern.Comparison
import SerialNumbers.Proofs.Pattern.Counting
import SerialNumbers.Proofs.Pattern.Dependence
import SerialNumbers.Proofs.Pattern.Extraction
import SerialNumbers.Proofs.Pattern.Influence
import SerialNumbers.Proofs.Pattern.Insertion
import SerialNumbers.Proofs.Pattern.Leniency
import SerialNumbers.Proofs.Pattern.Matcher
import SerialNumbers.Proofs.Pattern.Nesting
import SerialNumbers.Proofs.Pattern.Rendering
import SerialNumbers.Proofs.Pattern.Series
import SerialNumbers.Proofs.Pattern.Soundness
import SerialNumbers.Proofs.Pattern.Sufficiency
import SerialNumbers.Proofs.Pattern.Syntax
import SerialNumbers.Proofs.Pattern.Template
import SerialNumbers.Proofs.Pattern.Written
import SerialNumbers.Proofs.Period
import SerialNumbers.Proofs.Readability
import SerialNumbers.Proofs.Reconfiguration
import SerialNumbers.Proofs.Record
import SerialNumbers.Proofs.Remaining
import SerialNumbers.Proofs.Seeding
import SerialNumbers.Proofs.Store.Action
import SerialNumbers.Proofs.Store.Atomic
import SerialNumbers.Proofs.Store.Block
import SerialNumbers.Proofs.Store.Edit
import SerialNumbers.Proofs.Store.Effect
import SerialNumbers.Proofs.Store.Footprint
import SerialNumbers.Proofs.Store.Frame
import SerialNumbers.Proofs.Store.Identity
import SerialNumbers.Proofs.Store.Isolation
import SerialNumbers.Proofs.Store.Operation
import SerialNumbers.Proofs.Store.Query
import SerialNumbers.Proofs.Store.Reachable
import SerialNumbers.Proofs.Store.Replay
import SerialNumbers.Proofs.Store.Transaction
import SerialNumbers.Proofs.Store.Transition
import SerialNumbers.Proofs.Store.Valid
import SerialNumbers.Proofs.Store.Work
import SerialNumbers.Proofs.Succession
import SerialNumbers.Proofs.Table
import SerialNumbers.Proofs.Text.Blank
import SerialNumbers.Proofs.Text.Case
import SerialNumbers.Proofs.Text.Digit
import SerialNumbers.Proofs.Text.Numeral
import SerialNumbers.Proofs.Text.Order
import SerialNumbers.Proofs.Time.Calendar
import SerialNumbers.Proofs.Time.Order
import SerialNumbers.Proofs.Time.Week
import SerialNumbers.Proofs.Validation
import SerialNumbers.Proofs.Variable.Agreement
import SerialNumbers.Proofs.Variable.Chronology
import SerialNumbers.Proofs.Variable.Lookup
import SerialNumbers.Proofs.Variable.Naming
import SerialNumbers.Variable.Resolution
import SerialNumbers.Proofs.Variable.Stock
import SerialNumbers.Proofs.Variable.Width
import SerialNumbers.Report.Grid
import SerialNumbers.Report.Tables
import SerialNumbers.Reset
import SerialNumbers.Seeding
import SerialNumbers.Sequence
import SerialNumbers.Settings
import SerialNumbers.Shape.Basic
import SerialNumbers.Shape.Reader
import SerialNumbers.Store.Basic
import SerialNumbers.Store.Query
import SerialNumbers.Store.Transaction
import SerialNumbers.Table
import SerialNumbers.Text.Blank
import SerialNumbers.Text.Case
import SerialNumbers.Text.CaseTable
import SerialNumbers.Text.Digit
import SerialNumbers.Text.Json
import SerialNumbers.Text.Markup
import SerialNumbers.Text.Printable
import SerialNumbers.Text.Quoted
import SerialNumbers.Text.Span
import SerialNumbers.Text.Width
import SerialNumbers.Text.Wrapped
import SerialNumbers.Time.Calendar
import SerialNumbers.Time.Moment
import SerialNumbers.Time.Written
import SerialNumbers.Time.Zone
import SerialNumbers.Validation
import SerialNumbers.Value
import SerialNumbers.Variable.Builtin
import SerialNumbers.Variable.Custom
import SerialNumbers.Variable.Registry
import SerialNumbers.Variable.Stock
