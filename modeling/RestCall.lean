import RestCall.Argument
import RestCall.Binding.Basic
import RestCall.Binding.Options
import RestCall.Calendar.Date
import RestCall.Client.Assembly
import RestCall.Client.Basic
import RestCall.Client.Session
import RestCall.Client.Settings
import RestCall.Collection.Distinct
import RestCall.Component.Basic
import RestCall.Credentials
import RestCall.Decimal.Binary
import RestCall.Decimal.Layout
import RestCall.Decimal.Reading
import RestCall.Decimal.Shortest
import RestCall.Digest.Hmac
import RestCall.Digest.Sha256
import RestCall.Dispatch.Exchange
import RestCall.Dispatch.Network
import RestCall.Encoding.Base64
import RestCall.Encoding.Hex
import RestCall.Encoding.Percent
import RestCall.Fault.Basic
import RestCall.Fault.Declaration
import RestCall.Filter.Basic
import RestCall.Filter.Chain
import RestCall.Json.Cursor
import RestCall.Json.Document
import RestCall.Json.Failure
import RestCall.Json.Lens
import RestCall.Json.Lexeme
import RestCall.Json.Parser
import RestCall.Json.Path
import RestCall.Json.Printer
import RestCall.Json.Value
import RestCall.Manifest.Basic
import RestCall.Manifest.Document
import RestCall.Manifest.Loading
import RestCall.Operation.Basic
import RestCall.Operation.Catalogue
import RestCall.Operation.Declaration
import RestCall.Operation.Template
import RestCall.Payload.Serializer
import RestCall.Request.Basic
import RestCall.Response.Basic
import RestCall.Response.Mapper
import RestCall.Response.Parser
import RestCall.Response.Resolver
import RestCall.Retry.Policy
import RestCall.Shape.Misfit
import RestCall.Shape.Source
import RestCall.Text.Blank
import RestCall.Text.Canonical
import RestCall.Text.CanonicalTable
import RestCall.Text.Case
import RestCall.Text.CaseTable
import RestCall.Text.Direction
import RestCall.Text.DirectionTable
import RestCall.Text.Joining
import RestCall.Text.JoiningTable
import RestCall.Text.Lines
import RestCall.Text.Numeral
import RestCall.Text.Order
import RestCall.Text.Quoted
import RestCall.Text.QuotedTable
import RestCall.Text.Run
import RestCall.Text.Utf8
import RestCall.Transport.Settings
import RestCall.Url.Address
import RestCall.Url.Basic
import RestCall.Url.Domain
import RestCall.Url.Label
import RestCall.Url.Parser
import RestCall.Url.PlainTable
import RestCall.Url.Punycode
import RestCall.Warning
import RestCall.Yaml.Cursor
import RestCall.Yaml.Document
import RestCall.Yaml.Event
import RestCall.Yaml.Failure
import RestCall.Yaml.Plain
import RestCall.Yaml.Property
import RestCall.Yaml.Scalar
import RestCall.Yaml.Token
import RestCall.Proofs.Binding.Options
import RestCall.Proofs.Binding.Stages
import RestCall.Proofs.Client.Invocation
import RestCall.Proofs.Filter.Reapplication
import RestCall.Proofs.Encoding.Percent
import RestCall.Proofs.Text.Splitting
import RestCall.Proofs.Collection.Distinct
import RestCall.Proofs.Text.Utf8
import RestCall.Proofs.Filter.Signature
import RestCall.Proofs.Request.Overriding
import RestCall.Proofs.Component.Lookup
import RestCall.Proofs.Payload.Serializer
import RestCall.Proofs.Binding.Acceptance
import RestCall.Proofs.Dispatch.Resolution
import RestCall.Proofs.Response.Success
import RestCall.Proofs.Response.Failure
import RestCall.Proofs.Operation.Catalogue
import RestCall.Proofs.Manifest.Operations
import RestCall.Proofs.Client.Assembly
import RestCall.Proofs.Url.Scheme
import RestCall.Proofs.Client.Endpoint
import RestCall.Proofs.Dispatch.Traffic
import RestCall.Proofs.Component.Ordinary
import RestCall.Proofs.Client.Workload
import RestCall.Proofs.Client.Validation
import RestCall.Proofs.Client.Uninterrupted
import RestCall.Proofs.Filter.Derivation
import RestCall.Proofs.Client.Snapshot
import RestCall.Proofs.Binding.Mentioned
import RestCall.Proofs.Manifest.Inlining
import RestCall.Proofs.Json.Members
import RestCall.Proofs.Text.Lines
import RestCall.Proofs.Response.Records
import RestCall.Proofs.Url.Marks
import RestCall.Proofs.Client.Queryless
import RestCall.Proofs.Json.Passage
import RestCall.Proofs.Json.Lexeme
import RestCall.Proofs.Json.Document
import RestCall.Proofs.Manifest.Document
import RestCall.Proofs.Operation.Registration
import RestCall.Proofs.Dispatch.Settlement
import RestCall.Proofs.Binding.Fields
import RestCall.Proofs.Encoding.Literal
import RestCall.Proofs.Payload.Form
import RestCall.Proofs.Text.Order
import RestCall.Proofs.Binding.Path
import RestCall.Proofs.Filter.Coverage
import RestCall.Proofs.Operation.Merging
import RestCall.Proofs.Filter.Shortage
import RestCall.Proofs.Text.Numeral
import RestCall.Proofs.Json.Path
import RestCall.Proofs.Operation.Template
import RestCall.Proofs.Filter.Untouched
import RestCall.Proofs.Filter.Reordering
import RestCall.Proofs.Json.Printable
import RestCall.Proofs.Payload.Lines
import RestCall.Proofs.Response.Composition
import RestCall.Proofs.Response.Listing
import RestCall.Proofs.Json.Concatenation
import RestCall.Proofs.Text.Bytes
import RestCall.Proofs.Operation.Suggestion
import RestCall.Proofs.Operation.Declaration
import RestCall.Proofs.Operation.Rebinding
import RestCall.Proofs.Operation.Prefix
import RestCall.Proofs.Manifest.Naming
import RestCall.Proofs.Manifest.Filters
import RestCall.Proofs.Binding.Rooting
import RestCall.Proofs.Binding.Endpoint
import RestCall.Proofs.Json.Descent
import RestCall.Proofs.Request.Multimap
import RestCall.Proofs.Filter.Description
import RestCall.Proofs.Binding.Structured
