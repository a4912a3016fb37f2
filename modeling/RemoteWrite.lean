import RemoteWrite.Buffer
import RemoteWrite.Client.Attempt
import RemoteWrite.Client.Backoff
import RemoteWrite.Client.Config
import RemoteWrite.Client.Error
import RemoteWrite.Client.Network
import RemoteWrite.Client.RetryAfter
import RemoteWrite.Client.Send
import RemoteWrite.Client.Write
import RemoteWrite.Compression
import RemoteWrite.Config.Names
import RemoteWrite.Config.Reader
import RemoteWrite.Decimal.Nearest
import RemoteWrite.Decimal.Scaled
import RemoteWrite.Decimal.Shortest
import RemoteWrite.Document
import RemoteWrite.Document.Json
import RemoteWrite.Encoder
import RemoteWrite.ErrorChain
import RemoteWrite.Fixture
import RemoteWrite.Http.Headers
import RemoteWrite.Http.Status
import RemoteWrite.Logging.Config
import RemoteWrite.Logging.Directive
import RemoteWrite.Logging.Event
import RemoteWrite.Logging.Filter
import RemoteWrite.Logging.Level
import RemoteWrite.Logging.Subscriber
import RemoteWrite.Message.Decoded
import RemoteWrite.Message.Histogram
import RemoteWrite.Message.MetricType
import RemoteWrite.Message.Sample
import RemoteWrite.Message.V1
import RemoteWrite.Message.V2
import RemoteWrite.Natural
import RemoteWrite.Protocol
import RemoteWrite.Protocol.ContentType
import RemoteWrite.Receiver.Config
import RemoteWrite.Receiver.Handle
import RemoteWrite.Receiver.Route
import RemoteWrite.Receiver.Step
import RemoteWrite.Receiver.Storage
import RemoteWrite.Simulation.Loopback
import RemoteWrite.Simulation.ScriptedServer
import RemoteWrite.Snappy.Compress
import RemoteWrite.Snappy.Decompress
import RemoteWrite.Snappy.Element
import RemoteWrite.Snappy.Match
import RemoteWrite.Stats
import RemoteWrite.Stats.Headers
import RemoteWrite.SymbolTable
import RemoteWrite.Text.Alphanumeric
import RemoteWrite.Text.Hexadecimal
import RemoteWrite.Text.Mark
import RemoteWrite.Text.Normal.CombiningClass
import RemoteWrite.Text.Normal.Decomposition
import RemoteWrite.Text.Normal.Form
import RemoteWrite.Text.Numeral
import RemoteWrite.Text.Pieces
import RemoteWrite.Text.PointTable
import RemoteWrite.Text.Printable
import RemoteWrite.Text.Quoted
import RemoteWrite.Text.Utf8
import RemoteWrite.Text.WhiteSpace
import RemoteWrite.Time.Approximate
import RemoteWrite.Time.Calendar
import RemoteWrite.Time.Duration
import RemoteWrite.Time.HttpDate
import RemoteWrite.Url.Address
import RemoteWrite.Url.Basic
import RemoteWrite.Url.Domain
import RemoteWrite.Url.Domain.Direction
import RemoteWrite.Url.Domain.Joiner
import RemoteWrite.Url.Domain.Label
import RemoteWrite.Url.Domain.Mapping
import RemoteWrite.Url.Error
import RemoteWrite.Url.Host
import RemoteWrite.Url.Join
import RemoteWrite.Url.Percent
import RemoteWrite.Url.Punycode
import RemoteWrite.Wire.Fault
import RemoteWrite.Wire.Field
import RemoteWrite.Wire.Input
import RemoteWrite.Wire.Key
import RemoteWrite.Wire.Scalar
import RemoteWrite.Wire.Schema
import RemoteWrite.Wire.Varint
import RemoteWrite.WriteMessage
import RemoteWrite.Proofs.Client.Acceptance
import RemoteWrite.Proofs.Client.Accounting
import RemoteWrite.Proofs.Client.Attempt
import RemoteWrite.Proofs.Client.Cancellation
import RemoteWrite.Proofs.Client.Course
import RemoteWrite.Proofs.Client.Overflow
import RemoteWrite.Proofs.Client.Retries
import RemoteWrite.Proofs.Client.RetryAfter
import RemoteWrite.Proofs.Client.Write
import RemoteWrite.Proofs.Compression
import RemoteWrite.Proofs.Compression.Reuse
import RemoteWrite.Proofs.Confirmation
import RemoteWrite.Proofs.Delivery
import RemoteWrite.Proofs.Encoder
import RemoteWrite.Proofs.Encoder.Capabilities
import RemoteWrite.Proofs.Encoder.Capacity
import RemoteWrite.Proofs.Encoder.History
import RemoteWrite.Proofs.Http.Headers
import RemoteWrite.Proofs.Message.Canonical
import RemoteWrite.Proofs.Message.Concatenation
import RemoteWrite.Proofs.Message.Grammar
import RemoteWrite.Proofs.Message.Locality
import RemoteWrite.Proofs.Message.Truncation
import RemoteWrite.Proofs.Protocol.ContentType
import RemoteWrite.Proofs.Receiver.Admission
import RemoteWrite.Proofs.Receiver.Answer
import RemoteWrite.Proofs.Receiver.Checks
import RemoteWrite.Proofs.Receiver.Report
import RemoteWrite.Proofs.Snappy.Element
import RemoteWrite.Proofs.Snappy.RoundTrip
import RemoteWrite.Proofs.Snappy.Size
import RemoteWrite.Proofs.Stats.Contents
import RemoteWrite.Proofs.Stats.Counter
import RemoteWrite.Proofs.Stats.Headers
import RemoteWrite.Proofs.Stats.Payload
import RemoteWrite.Proofs.SymbolTable.Interning
import RemoteWrite.Proofs.SymbolTable.Resolving
import RemoteWrite.Proofs.SymbolTable.Session
import RemoteWrite.Proofs.Text.Numeral
import RemoteWrite.Proofs.Text.Pieces
import RemoteWrite.Proofs.Text.Utf8
import RemoteWrite.Proofs.Text.WhiteSpace
import RemoteWrite.Proofs.Wire.Acceptance
import RemoteWrite.Proofs.Wire.Decoding
import RemoteWrite.Proofs.Wire.Field
import RemoteWrite.Proofs.Wire.Grammar
import RemoteWrite.Proofs.Wire.Growth
import RemoteWrite.Proofs.Wire.Locality
import RemoteWrite.Proofs.Wire.Reading
import RemoteWrite.Proofs.Wire.Scalar
import RemoteWrite.Proofs.Wire.Schema
import RemoteWrite.Proofs.Wire.Skipping
import RemoteWrite.Proofs.Wire.Varint
import RemoteWrite.Proofs.Receiver.Decoding
import RemoteWrite.Proofs.Text.Decimal
import RemoteWrite.Proofs.Stats.Reading
import RemoteWrite.Proofs.Client.Backoff
import RemoteWrite.Proofs.Client.Delays
import RemoteWrite.Proofs.SymbolTable.References
import RemoteWrite.Proofs.Time.Calendar
import RemoteWrite.Proofs.Time.HttpDate
import RemoteWrite.Proofs.Client.Hint
import RemoteWrite.Proofs.Text.Lossy
import RemoteWrite.Proofs.Client.Excerpt
import RemoteWrite.Proofs.Text.Hexadecimal
import RemoteWrite.Proofs.Message.Correspondence
import RemoteWrite.Proofs.Fixture.Symbols
import RemoteWrite.Proofs.Fixture.Contents
