import GuardedSql.Decimal.Layout
import GuardedSql.Text.Space
import GuardedSql.Text.Clip
import GuardedSql.Json.Reader
import GuardedSql.Json.Printer
import GuardedSql.Calendar
import GuardedSql.Error
import GuardedSql.Token
import GuardedSql.Token.OfData
import GuardedSql.Operator
import GuardedSql.Quote.Emit
import GuardedSql.Clause
import GuardedSql.Filter.Compile
import GuardedSql.Filter.OfJson
import GuardedSql.Compiler
import GuardedSql.Statement.Parts
import GuardedSql.Statement.Command
import GuardedSql.Digest.Md5
import GuardedSql.Query
import GuardedSql.Record
import GuardedSql.Stats
import GuardedSql.FreshId
import GuardedSql.Connection
import GuardedSql.Client
import GuardedSql.Client.Batch
import GuardedSql.Client.Transaction
import GuardedSql.Proofs.Lexer
import GuardedSql.Proofs.RawGuard
import GuardedSql.Proofs.TemplatePlaces
import GuardedSql.Proofs.Erasure
import GuardedSql.Proofs.FilterMeaning
import GuardedSql.Proofs.Policies
import GuardedSql.Proofs.Coverage
import GuardedSql.Proofs.Alternatives
import GuardedSql.Proofs.Expression
import GuardedSql.Proofs.Conjuncts
import GuardedSql.Proofs.Runs
import GuardedSql.Proofs.Transactions
import GuardedSql.Proofs.Sending
import GuardedSql.Proofs.Correlation
import GuardedSql.Proofs.Program
import GuardedSql.Proofs.Probe
import GuardedSql.Proofs.Monitoring
import GuardedSql.Proofs.Statistics
import GuardedSql.Proofs.Brackets
import GuardedSql.Proofs.Kinds
import GuardedSql.Proofs.Rollback
import GuardedSql.Proofs.JsonForm
import GuardedSql.Proofs.FreshIdentifier
import GuardedSql.Proofs.Recovery
import GuardedSql.Proofs.Splicing
import GuardedSql.Proofs.QuotedName
import GuardedSql.Proofs.JsonGrammar
import GuardedSql.Proofs.BatchRun
import GuardedSql.Proofs.Positions
import GuardedSql.Proofs.WellFormed
import GuardedSql.Proofs.Rows
import GuardedSql.Proofs.RowOrder
import GuardedSql.Proofs.Deletion
import GuardedSql.Proofs.Skipping
import GuardedSql.Proofs.LiteralReading
import GuardedSql.Proofs.History
import GuardedSql.Proofs.Tally
import GuardedSql.Proofs.Records
import GuardedSql.Proofs.CandidateSearch
import GuardedSql.Proofs.QuotedForm
import GuardedSql.Proofs.BatchTotal
import GuardedSql.Proofs.Stopping
import GuardedSql.Proofs.Abridging
