import QueryLoom.Aggregation
import QueryLoom.Analysis
import QueryLoom.Assistant.Action
import QueryLoom.Assistant.Briefing
import QueryLoom.Assistant.Chat
import QueryLoom.Assistant.Registry
import QueryLoom.Assistant.Reply
import QueryLoom.Assistant.Suggestion
import QueryLoom.Catalog
import QueryLoom.CommandLine.Arguments
import QueryLoom.CommandLine.Command
import QueryLoom.CommandLine.Help
import QueryLoom.CommandLine.Performance
import QueryLoom.Decimal.Extended
import QueryLoom.Decimal.Layout
import QueryLoom.Decimal.Shortest
import QueryLoom.Entries
import QueryLoom.Files
import QueryLoom.Filter
import QueryLoom.Join
import QueryLoom.Json.Decoder
import QueryLoom.Json.Draft
import QueryLoom.Json.Fault
import QueryLoom.Json.LastWins
import QueryLoom.Json.Numeral
import QueryLoom.Json.Token
import QueryLoom.Json.Token.Lexer
import QueryLoom.Json.Tree
import QueryLoom.KeywordError
import QueryLoom.Main
import QueryLoom.Model
import QueryLoom.Pivot
import QueryLoom.Proofs.Aggregation
import QueryLoom.Proofs.Assistant.Delivery
import QueryLoom.Proofs.Assistant.Parts
import QueryLoom.Proofs.Assistant.Prose
import QueryLoom.Proofs.Assistant.Sessions
import QueryLoom.Proofs.Decimal.Plain
import QueryLoom.Proofs.Decimal.Shortest
import QueryLoom.Proofs.Decimal.Written
import QueryLoom.Proofs.Entries
import QueryLoom.Proofs.Json.Decoding
import QueryLoom.Proofs.Json.Drafting
import QueryLoom.Proofs.Json.Lexing
import QueryLoom.Proofs.Json.Numeral
import QueryLoom.Proofs.Json.Quoted
import QueryLoom.Proofs.Json.Tagged
import QueryLoom.Proofs.Json.Trailing
import QueryLoom.Proofs.Json.Whole
import QueryLoom.Proofs.Model.Distinct
import QueryLoom.Proofs.Model.Growth
import QueryLoom.Proofs.Query.Grouping
import QueryLoom.Proofs.Query.Irrelevance
import QueryLoom.Proofs.Query.Naming
import QueryLoom.Proofs.Query.Outcome
import QueryLoom.Proofs.Query.Outputs
import QueryLoom.Proofs.Query.Pivoting
import QueryLoom.Proofs.Query.Planning
import QueryLoom.Proofs.Query.Readback
import QueryLoom.Proofs.Query.Scoping
import QueryLoom.Proofs.Query.Walk
import QueryLoom.Proofs.Request.Encoding
import QueryLoom.Proofs.Request.Parts
import QueryLoom.Proofs.Sql.Escaping
import QueryLoom.Proofs.Sql.Lexing
import QueryLoom.Proofs.Sql.Parts
import QueryLoom.Proofs.Sql.Statement
import QueryLoom.Proofs.Store.Dialogue
import QueryLoom.Proofs.Store.Reset
import QueryLoom.Query.Compile
import QueryLoom.Query.JoinWalk
import QueryLoom.Query.Plan
import QueryLoom.Query.Preview
import QueryLoom.Query.Samples
import QueryLoom.Query.Scope
import QueryLoom.Request
import QueryLoom.Row
import QueryLoom.Settings
import QueryLoom.Settings.Expansion
import QueryLoom.Settings.Loading
import QueryLoom.Settings.Reading
import QueryLoom.Sql.Dialect
import QueryLoom.Sql.Statement
import QueryLoom.Sql.Token
import QueryLoom.Sql.Token.Lexer
import QueryLoom.Store.Affinity
import QueryLoom.Store.Database
import QueryLoom.Store.Dialogue
import QueryLoom.Store.Error
import QueryLoom.Store.File
import QueryLoom.Store.Script
import QueryLoom.Store.Select
import QueryLoom.Text.Blank
import QueryLoom.Text.Ending
import QueryLoom.Text.LetterCase
import QueryLoom.Text.LetterCase.Data
import QueryLoom.Text.Pattern
import QueryLoom.Text.Shown
import QueryLoom.Text.Unseen
import QueryLoom.Toml.Reader
import QueryLoom.Toml.Scalar
import QueryLoom.Toml.Token
import QueryLoom.Toml.Tree
import QueryLoom.Value
import QueryLoom.Proofs.Query.BreadthFirst
import QueryLoom.Proofs.Query.Relevance
import QueryLoom.Proofs.Model.Merging
import QueryLoom.Proofs.Query.Selection
import QueryLoom.Proofs.Model.Resolution
import QueryLoom.Proofs.Assistant.Budget
import QueryLoom.Proofs.Store.Loading
import QueryLoom.Store.Connection
import QueryLoom.Proofs.Store.Atomicity
import QueryLoom.Proofs.Json.Ordered
import QueryLoom.Query.Clauses
import QueryLoom.Proofs.Query.Clauses
import QueryLoom.Proofs.Query.PreviewRows
import QueryLoom.Proofs.Join
import QueryLoom.Proofs.Query.Aliasing
import QueryLoom.Proofs.Settings.Expansion
import QueryLoom.Proofs.Text.Pattern
import QueryLoom.Proofs.Text.Words
import QueryLoom.Proofs.Query.Sampling
import QueryLoom.Proofs.Sql.Quoting
import QueryLoom.Proofs.Decimal.Rounding
import QueryLoom.Proofs.Json.Spelling
import QueryLoom.Proofs.Json.Magnitude
import QueryLoom.Proofs.Json.Floats
import QueryLoom.Proofs.Value
