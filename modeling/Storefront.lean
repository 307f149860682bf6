import Storefront.Decimal.Shortest
import Storefront.Decimal.Layout
import Storefront.Json.Value
import Storefront.Json.Parse
import Storefront.Json.Print
import Storefront.Text.Scan
import Storefront.Time.Calendar
import Storefront.Time.DateTime
import Storefront.Time.Read
import Storefront.Time.Duration
import Storefront.Time.Strftime
import Storefront.Value.Basic
import Storefront.Value.Text
import Storefront.Text.Printable
import Storefront.Hint
import Storefront.Http.Status
import Storefront.Failure
import Storefront.Value.Compare
import Storefront.Text.CodePoint
import Storefront.Digest.Sip
import Storefront.Value.Hash
import Storefront.Value.ClassDoc
import Storefront.Value.Convert
import Storefront.Record
import Storefront.Codec.Basic
import Storefront.Codec.Transcode
import Storefront.Wire.Value
import Storefront.Wire.Failure
import Storefront.Page.Cursor
import Storefront.Wire.Request
import Storefront.Wire.Convert
import Storefront.Wire.Respond
import Storefront.Log
import Storefront.Page.Size
import Storefront.Query
import Storefront.Query.Build
import Storefront.Sql.Expression
import Storefront.Sql.Select
import Storefront.Wire.Queries
import Storefront.Digest.Sha1
import Storefront.Text.Base64
import Storefront.Text.Number
import Storefront.Text.Encoding
import Storefront.Settings
import Storefront.Http.Wrap
import Storefront.Service.Catalog
import Storefront.Service.Pii
import Storefront.Wire.Service
import Storefront.Text.CharClass
import Storefront.Text.NameClass
import Storefront.Text.Case
import Storefront.Text.Search
import Storefront.Text.Pad
import Storefront.Decimal.Digits
import Storefront.Text.Format
import Storefront.Operation.Script.Token
import Storefront.Operation.Script.Syntax
import Storefront.Operation.Script.Arith
import Storefront.Operation.Script.SetTable
import Storefront.Operation.Script.Object
import Storefront.Operation.Script.Sets
import Storefront.Operation.Script.Scope
import Storefront.Operation.Script.Classes
import Storefront.Operation.Script.Access
import Storefront.Operation.Script.Operators
import Storefront.Operation.Script.Methods
import Storefront.Operation.Script.Builtins
import Storefront.Operation.Script.Library
import Storefront.Operation.Script.Eval
import Storefront.Operation.Script.Check
import Storefront.Operation.Script.Interned
import Storefront.Operation.Declare
import Storefront.Wire.Declare
import Storefront.Store.Sort
import Storefront.Store.Document
import Storefront.Store.Memory
import Storefront.Store.Table
import Storefront.Store.Basic
import Storefront.Service.World
import Storefront.Page.Fetch
import Storefront.Service.Resources
import Storefront.Wire.Session
import Storefront.Proofs.Sort.Order
import Storefront.Proofs.Sort.Steps
import Storefront.Proofs.Sort.Search
import Storefront.Proofs.Sort.MergeLo
import Storefront.Proofs.Sort.MergeHi
import Storefront.Proofs.Sort.Runs
import Storefront.Proofs.Sort.Stack
import Storefront.Proofs.Sort.Whole
import Storefront.Proofs.Page.Token
import Storefront.Proofs.Time.Nanos
import Storefront.Proofs.Page.Walk
import Storefront.Proofs.Page.Interleave
import Storefront.Proofs.Query.Stages
import Storefront.Proofs.Query.Listing
import Storefront.Proofs.Service.Writes
import Storefront.Proofs.Service.Mutations
import Storefront.Proofs.Text.Numerals
import Storefront.Proofs.Json.Reading
import Storefront.Proofs.Time.Calendar
import Storefront.Proofs.Time.Stamp
import Storefront.Proofs.Sql.Statement
import Storefront.Proofs.Sql.Condition
import Storefront.Proofs.Sql.Resume
import Storefront.Proofs.Page.Execute
import Storefront.Proofs.Page.Size
import Storefront.Proofs.Page.Failures
import Storefront.Proofs.Codec.Cache
import Storefront.Proofs.Sql.Flatten
import Storefront.Proofs.Record.Keyword
import Storefront.Proofs.Service.Expansion
import Storefront.Proofs.Codec.Located
import Storefront.Proofs.Codec.Carried
import Storefront.Proofs.Codec.RoundTrip
import Storefront.Proofs.Store.Edit
import Storefront.Proofs.Service.Patch
