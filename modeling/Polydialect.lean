import Polydialect.Text.Ranges
import Polydialect.Text.Printable
import Polydialect.Text.CaseMap
import Polydialect.Text.Blank
import Polydialect.Text.Ascii
import Polydialect.Text.Cut
import Polydialect.Text.Quoted
import Polydialect.Text.Utf8
import Polydialect.Text.Hex
import Polydialect.Text.Percent
import Polydialect.Keyed
import Polydialect.Number.Integer
import Polydialect.Number.Binary64.Layout
import Polydialect.Number.Binary64.Reader
import Polydialect.Number.Decimal
import Polydialect.Calendar.Reader
import Polydialect.Json.Printer
import Polydialect.Json.Parser
import Polydialect.Value.Access
import Polydialect.Row
import Polydialect.Identifier
import Polydialect.Column.Native
import Polydialect.Marker
import Polydialect.Fragment
import Polydialect.Statement
import Polydialect.Dialect.Paging
import Polydialect.Dialect.Types
import Polydialect.Dialect.Catalog
import Polydialect.Cache.Directive
import Polydialect.Query.Condition
import Polydialect.Query.Basic
import Polydialect.Query.Compile
import Polydialect.Cache.Memory
import Polydialect.Cache.Codec
import Polydialect.Guid
import Polydialect.Record
import Polydialect.Session.Basic
import Polydialect.Session.Engine
import Polydialect.Connection
import Polydialect.Database
import Polydialect.Session.Caching
import Polydialect.Schema.Definition
import Polydialect.Schema.Index
import Polydialect.Schema.Probe
import Polydialect.Schema.Live
import Polydialect.Repository.Basic
import Polydialect.Repository.Read
import Polydialect.Repository.Write
import Polydialect.Members
import Polydialect.Settings.Document
import Polydialect.Settings.Basic
import Polydialect.Sqlite.Storage
import Polydialect.Sqlite.Location
import Polydialect.Proofs.Marker
import Polydialect.Proofs.Quoting
import Polydialect.Proofs.Condition
import Polydialect.Proofs.Layout
import Polydialect.Proofs.Binding
import Polydialect.Proofs.Lexing
import Polydialect.Proofs.Naming
import Polydialect.Proofs.Predicate
import Polydialect.Proofs.Meaning
import Polydialect.Proofs.Assigning
import Polydialect.Proofs.Running
import Polydialect.Proofs.Backfill
import Polydialect.Proofs.Codec
import Polydialect.Proofs.Entries
import Polydialect.Proofs.Serving
import Polydialect.Proofs.Operations
import Polydialect.Proofs.Contract
import Polydialect.Proofs.Aggregating
import Polydialect.Proofs.Checking
import Polydialect.Proofs.Loading
import Polydialect.Proofs.Json.Escape
import Polydialect.Proofs.Json.Numeral
import Polydialect.Proofs.Json.Real
import Polydialect.Proofs.Json.Reading
import Polydialect.Proofs.Json.Canonical
import Polydialect.Proofs.Calendar
import Polydialect.Proofs.Decimal
import Polydialect.Proofs.Rereading
import Polydialect.Proofs.Introspection
import Polydialect.Proofs.Transaction
import Polydialect.Proofs.Spelling
import Polydialect.Proofs.Json.Depth
import Polydialect.Proofs.Storing
import Polydialect.Proofs.Retaining
import Polydialect.Proofs.Wrapping
import Polydialect.Proofs.Stepping
import Polydialect.Proofs.Paging
import Polydialect.Proofs.Phrase
import Polydialect.Proofs.RowNumbers
import Polydialect.Proofs.Declaring
import Polydialect.Proofs.Altering
import Polydialect.Proofs.Repeating
import Polydialect.Proofs.Resolving
import Polydialect.Proofs.Rebuilding
import Polydialect.Proofs.Lengths
import Polydialect.Proofs.Segmenting
import Polydialect.Proofs.Joining
import Polydialect.Proofs.Persisting
import Polydialect.Proofs.Dating
import Polydialect.Proofs.Representing
import Polydialect.Proofs.Lookup
import Polydialect.Proofs.Requesting
import Polydialect.Proofs.Updating
import Polydialect.Proofs.Inserting
import Polydialect.Proofs.Probing
import Polydialect.Proofs.Encoding
import Polydialect.Proofs.Planning
import Polydialect.Proofs.Bracketing
import Polydialect.Proofs.Connecting
import Polydialect.Proofs.Locating
import Polydialect.Proofs.Indexing
import Polydialect.Proofs.Casing
import Polydialect.Proofs.Counting
