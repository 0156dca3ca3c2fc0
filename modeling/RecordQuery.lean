import RecordQuery.Clause.Printer
import RecordQuery.CommandLine.Arguments
import RecordQuery.CommandLine.Run
import RecordQuery.Evaluation.Comparison
import RecordQuery.Evaluation.Evaluator
import RecordQuery.Failure
import RecordQuery.Http.Channel
import RecordQuery.Http.Message
import RecordQuery.Json.Printer
import RecordQuery.Json.Reader
import RecordQuery.Json.Syntax
import RecordQuery.Json.Value
import RecordQuery.Main
import RecordQuery.Number.Binary64
import RecordQuery.Number.Notation
import RecordQuery.Number.Shortest
import RecordQuery.Paging.Page
import RecordQuery.Paging.Run
import RecordQuery.Predicate.Basic
import RecordQuery.Predicate.Path
import RecordQuery.Predicate.Stored
import RecordQuery.Proofs.Clause.Accepted
import RecordQuery.Proofs.Clause.Coincidence
import RecordQuery.Proofs.Clause.Constant
import RecordQuery.Proofs.Clause.Distinct
import RecordQuery.Proofs.Clause.Grammar
import RecordQuery.Proofs.Clause.Layout
import RecordQuery.Proofs.Clause.Reading
import RecordQuery.Proofs.Clause.Selection
import RecordQuery.Proofs.Clause.Spelling
import RecordQuery.Proofs.Clause.Text
import RecordQuery.Proofs.Clause.Token
import RecordQuery.Proofs.Clause.Unambiguous
import RecordQuery.Proofs.CommandLine.Selection
import RecordQuery.Proofs.Evaluation.Chain
import RecordQuery.Proofs.Evaluation.Comparison
import RecordQuery.Proofs.Evaluation.Footprint
import RecordQuery.Proofs.Evaluation.Malformed
import RecordQuery.Proofs.Evaluation.Membership
import RecordQuery.Proofs.Evaluation.Numbers
import RecordQuery.Proofs.Evaluation.Outcome
import RecordQuery.Proofs.Evaluation.Renaming
import RecordQuery.Proofs.Evaluation.StringTest
import RecordQuery.Proofs.Failure
import RecordQuery.Proofs.Json.Agreement
import RecordQuery.Proofs.Json.Members
import RecordQuery.Proofs.Json.Renaming
import RecordQuery.Proofs.Json.Same
import RecordQuery.Proofs.Number.Notation
import RecordQuery.Proofs.Number.Order
import RecordQuery.Proofs.Number.Rounding
import RecordQuery.Proofs.Number.Shortest
import RecordQuery.Proofs.Paging.Cancellation
import RecordQuery.Proofs.Paging.Gathered
import RecordQuery.Proofs.Paging.History
import RecordQuery.Proofs.Paging.Limit
import RecordQuery.Proofs.Paging.Moment
import RecordQuery.Proofs.Paging.Page
import RecordQuery.Proofs.Paging.Requests
import RecordQuery.Proofs.Paging.Result
import RecordQuery.Proofs.Predicate.Bracketing
import RecordQuery.Proofs.Predicate.Chain
import RecordQuery.Proofs.Predicate.Collection
import RecordQuery.Proofs.Predicate.Constituents
import RecordQuery.Proofs.Predicate.Context
import RecordQuery.Proofs.Predicate.Edit
import RecordQuery.Proofs.Predicate.Expansion
import RecordQuery.Proofs.Predicate.Folding
import RecordQuery.Proofs.Predicate.NormalForm
import RecordQuery.Proofs.Predicate.PathText
import RecordQuery.Proofs.Predicate.Stored
import RecordQuery.Proofs.Query.Commute
import RecordQuery.Proofs.Query.Filter
import RecordQuery.Proofs.Query.Key
import RecordQuery.Proofs.Query.Merged
import RecordQuery.Proofs.Query.Names
import RecordQuery.Proofs.Query.Options
import RecordQuery.Proofs.Query.Segment
import RecordQuery.Proofs.Query.Slot
import RecordQuery.Proofs.Query.Steps
import RecordQuery.Proofs.Query.WireName
import RecordQuery.Proofs.Result
import RecordQuery.Proofs.Service.Credential
import RecordQuery.Proofs.Service.Exchange
import RecordQuery.Proofs.Service.Fetch
import RecordQuery.Proofs.Service.Operation
import RecordQuery.Proofs.Service.Options
import RecordQuery.Proofs.Service.Record
import RecordQuery.Proofs.Service.Resolution
import RecordQuery.Proofs.Text.Digits
import RecordQuery.Proofs.Text.Layout
import RecordQuery.Proofs.Text.Lower
import RecordQuery.Proofs.Text.Mark
import RecordQuery.Proofs.Text.Quoted
import RecordQuery.Proofs.Text.Utf8
import RecordQuery.Proofs.Time.ClauseText
import RecordQuery.Proofs.Time.StoredText
import RecordQuery.Proofs.Time.Timestamp
import RecordQuery.Proofs.Url.Encoding
import RecordQuery.Proofs.Url.Folder
import RecordQuery.Proofs.Url.Reference
import RecordQuery.Query.Basic
import RecordQuery.Service.Address
import RecordQuery.Service.Credential
import RecordQuery.Service.Exchange
import RecordQuery.Service.Session
import RecordQuery.Service.Settings
import RecordQuery.Service.SettingsFile
import RecordQuery.Text.CaseTable
import RecordQuery.Text.Composition
import RecordQuery.Text.CompositionTable
import RecordQuery.Text.Digits
import RecordQuery.Text.Lower
import RecordQuery.Text.Quoted
import RecordQuery.Text.Shown
import RecordQuery.Text.Table
import RecordQuery.Text.Utf8
import RecordQuery.Time.Calendar
import RecordQuery.Time.Instant
import RecordQuery.Time.Reader
import RecordQuery.Url.Basic
import RecordQuery.Url.Domain
import RecordQuery.Url.DomainTable
import RecordQuery.Url.Encoding
import RecordQuery.Url.FilePath
import RecordQuery.Url.Host
import RecordQuery.Url.Label
import RecordQuery.Url.LabelTable
import RecordQuery.Url.Parser
import RecordQuery.Url.Punycode
import RecordQuery.Yaml.Node
import RecordQuery.Yaml.Place
import RecordQuery.Yaml.Scalar
import RecordQuery.Yaml.Tag
import RecordQuery.Yaml.Token
import RecordQuery.Yaml.Value
