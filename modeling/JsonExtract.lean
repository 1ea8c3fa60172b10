import JsonExtract.Coercion
import JsonExtract.Command.Arguments
import JsonExtract.Command.Basic
import JsonExtract.Command.Headers
import JsonExtract.Command.Listing
import JsonExtract.Command.Plan
import JsonExtract.Decimal.Notation
import JsonExtract.Decimal.Reading
import JsonExtract.Decimal.Shortest
import JsonExtract.Http.Chunks
import JsonExtract.Http.Client
import JsonExtract.Http.ContentType
import JsonExtract.Http.Credentials
import JsonExtract.Http.Exchange
import JsonExtract.Http.Field
import JsonExtract.Http.Message
import JsonExtract.Http.Network
import JsonExtract.Http.Site
import JsonExtract.Http.Status
import JsonExtract.Job
import JsonExtract.Json.Basic
import JsonExtract.Json.Fault
import JsonExtract.Json.Number
import JsonExtract.Json.Numeral
import JsonExtract.Json.Printer
import JsonExtract.Json.Reader
import JsonExtract.Keyed
import JsonExtract.Main
import JsonExtract.Path.Octets
import JsonExtract.Path.Reader
import JsonExtract.Path.Resolve
import JsonExtract.Path.Step
import JsonExtract.Picked
import JsonExtract.Problem
import JsonExtract.Program
import JsonExtract.Proofs.Coercion
import JsonExtract.Proofs.Command.Accounting
import JsonExtract.Proofs.Command.Agreement
import JsonExtract.Proofs.Command.Validation
import JsonExtract.Proofs.Decimal.Digits
import JsonExtract.Proofs.Http.Classification
import JsonExtract.Proofs.Http.Redirects
import JsonExtract.Proofs.Http.Serving
import JsonExtract.Proofs.Keyed
import JsonExtract.Proofs.Path.Addressing
import JsonExtract.Proofs.Path.Correspondence
import JsonExtract.Proofs.Path.Fanout
import JsonExtract.Proofs.Path.Grammar
import JsonExtract.Proofs.Path.Independence
import JsonExtract.Proofs.Path.Numbers
import JsonExtract.Proofs.Path.Reading
import JsonExtract.Proofs.Path.Scanning
import JsonExtract.Proofs.Path.Splitting
import JsonExtract.Proofs.Picked
import JsonExtract.Proofs.Problem
import JsonExtract.Proofs.Selector.Coercion
import JsonExtract.Proofs.Selector.Evaluation
import JsonExtract.Proofs.Selector.MemberOrder
import JsonExtract.Proofs.Specification.Environment
import JsonExtract.Proofs.Specification.Writing
import JsonExtract.Proofs.Sum
import JsonExtract.Proofs.Text.Slice
import JsonExtract.Proofs.Text.Utf8
import JsonExtract.Proofs.Yaml.Writing
import JsonExtract.Selector.Argument
import JsonExtract.Selector.Basic
import JsonExtract.Selector.Description
import JsonExtract.Selector.Fields
import JsonExtract.Specification.Basic
import JsonExtract.Specification.Reading
import JsonExtract.Specification.Variables
import JsonExtract.Text.Blank
import JsonExtract.Text.Charset
import JsonExtract.Text.Combining
import JsonExtract.Text.Direction
import JsonExtract.Text.Gb18030
import JsonExtract.Text.Grid
import JsonExtract.Text.Grid.Big5
import JsonExtract.Text.Grid.Chinese
import JsonExtract.Text.Grid.Jis208
import JsonExtract.Text.Grid.Jis212
import JsonExtract.Text.Grid.Korean
import JsonExtract.Text.Japanese
import JsonExtract.Text.Joining
import JsonExtract.Text.Paired
import JsonExtract.Text.Position
import JsonExtract.Text.Quoted
import JsonExtract.Text.Ranges
import JsonExtract.Text.SingleOctet
import JsonExtract.Text.Slice
import JsonExtract.Text.Table
import JsonExtract.Text.Unquoted
import JsonExtract.Text.Utf8
import JsonExtract.Text.Visible
import JsonExtract.Text.WordChar
import JsonExtract.Transform
import JsonExtract.Url.Basic
import JsonExtract.Url.Composition
import JsonExtract.Url.Domain
import JsonExtract.Url.Fault
import JsonExtract.Url.Host
import JsonExtract.Url.Ipv4
import JsonExtract.Url.Ipv6
import JsonExtract.Url.Mapping
import JsonExtract.Url.Percent
import JsonExtract.Url.Punycode
import JsonExtract.Url.Reader
import JsonExtract.Url.Relative
import JsonExtract.Url.Requestable
import JsonExtract.Url.Segments
import JsonExtract.Yaml.BlockScalar
import JsonExtract.Yaml.Cursor
import JsonExtract.Yaml.Decoding
import JsonExtract.Yaml.Lexer
import JsonExtract.Yaml.Node
import JsonExtract.Yaml.QuotedScalar
import JsonExtract.Yaml.Scalar
import JsonExtract.Yaml.Tag
import JsonExtract.Yaml.TagName
import JsonExtract.Yaml.Token
import JsonExtract.Proofs.Specification.Substitution
import JsonExtract.Proofs.Sum.Terms
import JsonExtract.Proofs.Numeral
import JsonExtract.Proofs.Json.Numeral
import JsonExtract.Proofs.Json.Reading
import JsonExtract.Proofs.Selector.Argument
import JsonExtract.Proofs.Specification.Lookups
import JsonExtract.Proofs.Coercion.Leaves
import JsonExtract.Proofs.Selector.Fields
import JsonExtract.Proofs.Command.Headers
import JsonExtract.Proofs.Text.Quoted
import JsonExtract.Proofs.Command.Listing
import JsonExtract.Proofs.Yaml.Aliases
import JsonExtract.Proofs.Specification.FieldOrder
import JsonExtract.Selector.Octets
import JsonExtract.Proofs.Text.Operator
import JsonExtract.Proofs.Selector.Octets
import JsonExtract.Proofs.Decimal.Double
import JsonExtract.Proofs.Decimal.Bits
import JsonExtract.Proofs.Decimal.Shortest
import JsonExtract.Proofs.Decimal.Writing
