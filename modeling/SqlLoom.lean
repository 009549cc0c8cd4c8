import SqlLoom.Text.Blank
import SqlLoom.Text.Case
import SqlLoom.Text.Integer
import SqlLoom.Text.Numeral
import SqlLoom.Text.Quoted
import SqlLoom.Text.Search
import SqlLoom.Transaction
import SqlLoom.Schema.Reflection
import SqlLoom.Connection.Locking
import SqlLoom.Rehearsal.LockHost
import SqlLoom.Rehearsal.Engine
import SqlLoom.Rehearsal.Recorder
import SqlLoom.Connection
import SqlLoom.Profile
import SqlLoom.Connection.Literal
import SqlLoom.Connection.Binding
import SqlLoom.Condition
import SqlLoom.Fragment
import SqlLoom.Fragment.Membership
import SqlLoom.Fragment.Pattern
import SqlLoom.Fragment.Select
import SqlLoom.Dialect.Identifier
import SqlLoom.Dialect.ColumnType
import SqlLoom.Dialect.Insert
import SqlLoom.Dialect.Paging
import SqlLoom.Dialect.Registry
import SqlLoom.Schema
import SqlLoom.Statement
import SqlLoom.Query.Extend
import SqlLoom.Query.Shorthand
import SqlLoom.Value.Shown
import SqlLoom.Proofs.Fragment.Run
import SqlLoom.Proofs.Fragment.Text
import SqlLoom.Proofs.Parts
import SqlLoom.Proofs.Fragment.Fits
import SqlLoom.Proofs.Compile
import SqlLoom.Proofs.Statement
import SqlLoom.Proofs.Uniform
import SqlLoom.Proofs.Parameters
import SqlLoom.Proofs.Masked
import SqlLoom.Proofs.Fragment.Alike
import SqlLoom.Proofs.Masked.Compile
import SqlLoom.Proofs.Secrecy
import SqlLoom.Proofs.Transaction.Transitions
import SqlLoom.Proofs.Transaction.Nesting
import SqlLoom.Proofs.Transaction.Units
import SqlLoom.Proofs.Transaction.History
import SqlLoom.Proofs.Transaction.Runs
import SqlLoom.Proofs.Transaction.Outlived
import SqlLoom.Proofs.Transaction.Exits
import SqlLoom.Proofs.Literal
import SqlLoom.Proofs.Literal.Colons
import SqlLoom.Proofs.Batch
import SqlLoom.Proofs.Positions
import SqlLoom.Proofs.Enclosed
import SqlLoom.Proofs.Embedded
import SqlLoom.Proofs.Parentheses
import SqlLoom.Proofs.Parentheses.Names
import SqlLoom.Proofs.Fragment.Paired
import SqlLoom.Proofs.Texts
import SqlLoom.Proofs.Parentheses.Compile
import SqlLoom.Proofs.Fragment.Bound
import SqlLoom.Proofs.Tests
import SqlLoom.Proofs.Grouping
import SqlLoom.Proofs.Formula
import SqlLoom.Proofs.Reading
import SqlLoom.Proofs.Logic
import SqlLoom.Proofs.Meaning
import SqlLoom.Proofs.Meaning.Compile
import SqlLoom.Proofs.Filtering
import SqlLoom.Proofs.Paging
import SqlLoom.Proofs.Settlement
import SqlLoom.Proofs.Identifier
import SqlLoom.Proofs.Template
import SqlLoom.Proofs.Template.Resolved
import SqlLoom.Proofs.Batch.Sent
import SqlLoom.Proofs.Binding
import SqlLoom.Proofs.Failure
import SqlLoom.Proofs.Lock.Steps
import SqlLoom.Proofs.Lock.Exclusion
import SqlLoom.Proofs.Membership
import SqlLoom.Proofs.Membership.Split
import SqlLoom.Proofs.Membership.Rows
import SqlLoom.Proofs.Shorthand
import SqlLoom.Proofs.Shorthand.Spelling
import SqlLoom.Proofs.Pattern
import SqlLoom.Proofs.WellTyped
import SqlLoom.Proofs.WellFormed
import SqlLoom.Proofs.Vacuous
import SqlLoom.Proofs.Omission
import SqlLoom.Proofs.Hash
import SqlLoom.Proofs.Exposed
import SqlLoom.Proofs.Words
import SqlLoom.Proofs.Trailing
import SqlLoom.Proofs.Listing
import SqlLoom.Proofs.Ordering
import SqlLoom.Proofs.Fields
import SqlLoom.Proofs.Alias
import SqlLoom.Proofs.Cast
import SqlLoom.Proofs.Lock.Release
import SqlLoom.Proofs.Lock.Polling
import SqlLoom.Proofs.Default
import SqlLoom.Proofs.ColumnType
import SqlLoom.Proofs.ParamTable.Fresh
import SqlLoom.Proofs.Pattern.Scan
