import RecordQuery.Declaration.Item.Reader
import RecordQuery.Proofs.Filter.Conjunction
import RecordQuery.Proofs.Store.Answer
import RecordQuery.Query
import RecordQuery.Record.Row
import RecordQuery.Request.Fragments
import RecordQuery.Settings.Document
import RecordQuery.Sql
import RecordQuery.Store
import RecordQuery.Store.Key
import RecordQuery.Proofs.Grouping.LastOfGroup
import RecordQuery.Proofs.Sorting.SortProblems
import RecordQuery.Proofs.Store.UpdateAll
import RecordQuery.Proofs.Filter.LiteralText
import RecordQuery.Proofs.Filter.RoundTrip
import RecordQuery.Proofs.Name.Canonical
import RecordQuery.Proofs.Name.Table
import RecordQuery.Proofs.Store.Batch
import RecordQuery.Proofs.Sorting.RangeFilter
import RecordQuery.Proofs.Time.Timestamp
import RecordQuery.Proofs.Sql.Like
import RecordQuery.Proofs.Sql.Token
import RecordQuery.Proofs.Sql.Quoting
import RecordQuery.Proofs.Sql.TableName
import RecordQuery.Proofs.Matching.Negation
import RecordQuery.Proofs.Record.Relations
import RecordQuery.Proofs.Query.Pages
import RecordQuery.Proofs.Store.DeleteAll
import RecordQuery.Proofs.Store.InsertionOrder
import RecordQuery.Proofs.Matching.Timestamps
import RecordQuery.Proofs.Filter.TimeClauses
import RecordQuery.Proofs.Number.Rounding
import RecordQuery.Proofs.Number.ShortestDecimal
import RecordQuery.Proofs.Number.FloatText
import RecordQuery.Proofs.Filter.ListText
import RecordQuery.Proofs.Filter.ReadOperand
import RecordQuery.Proofs.Filter.Rereading
import RecordQuery.Proofs.Matching.Membership
import RecordQuery.Proofs.Matching.WholeNumbers
import RecordQuery.Proofs.Query.FilterPasses
import RecordQuery.Proofs.Sorting.KeyByKey
import RecordQuery.Proofs.Matching.Bytes
import RecordQuery.Proofs.Filter.PieceText
import RecordQuery.Proofs.Filter.Piecewise
import RecordQuery.Proofs.Filter.SingleMember
import RecordQuery.Proofs.Time.InstantText
import RecordQuery.Proofs.Grouping.Equality
import RecordQuery.Proofs.Record.Cells
import RecordQuery.Proofs.Record.Narrowing
import RecordQuery.Proofs.Record.Merging
import RecordQuery.Proofs.Number.Single
import RecordQuery.Proofs.Record.Widening
import RecordQuery.Proofs.Sql.Placeholders
import RecordQuery.Proofs.Text.Separated
import RecordQuery.Proofs.Request.SortEntries
import RecordQuery.Proofs.Request.Parameters
import RecordQuery.Proofs.Declaration.Columns
import RecordQuery.Proofs.Declaration.OptionLists
import RecordQuery.Proofs.Record.Lookup
import RecordQuery.Proofs.Request.Counts
