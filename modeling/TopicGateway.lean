import TopicGateway.Amqp.Frame
import TopicGateway.Amqp.Session
import TopicGateway.Base64
import TopicGateway.Broker.Access
import TopicGateway.Broker.Fault
import TopicGateway.Broker.Memory
import TopicGateway.Broker.Pool
import TopicGateway.Broker.Session
import TopicGateway.Broker.Topic
import TopicGateway.Broker.Topology
import TopicGateway.Command.Arguments
import TopicGateway.Command.EnvFile
import TopicGateway.Command.Help
import TopicGateway.Command.Run
import TopicGateway.Config.DefaultsFile
import TopicGateway.Config.Describe
import TopicGateway.Config.Policy
import TopicGateway.Config.Resolve
import TopicGateway.Gateway.Field
import TopicGateway.Gateway.Refusal
import TopicGateway.Gateway.Route
import TopicGateway.Gateway.Router
import TopicGateway.Http.Basic
import TopicGateway.Http.Form
import TopicGateway.Http.MediaType
import TopicGateway.Http.Multipart
import TopicGateway.Json.Basic
import TopicGateway.Json.Fault
import TopicGateway.Json.Printer
import TopicGateway.Json.Reader
import TopicGateway.Json.Record
import TopicGateway.Json.Scan
import TopicGateway.Main
import TopicGateway.Message.Defaults
import TopicGateway.Message.Envelope
import TopicGateway.Message.Payload
import TopicGateway.Message.Template
import TopicGateway.Mismatch
import TopicGateway.Net.SocketAddress
import TopicGateway.Number.Binary64
import TopicGateway.Number.Scaling
import TopicGateway.Number.Shortest
import TopicGateway.Number.Whole
import TopicGateway.Proofs.Amqp.Declaring
import TopicGateway.Proofs.Amqp.Delivery
import TopicGateway.Proofs.Amqp.Session
import TopicGateway.Proofs.Base64
import TopicGateway.Proofs.Base64.Canonical
import TopicGateway.Proofs.Broker.Interleaving
import TopicGateway.Proofs.Broker.Memory
import TopicGateway.Proofs.Broker.Pool
import TopicGateway.Proofs.Broker.Session
import TopicGateway.Proofs.Broker.Standard
import TopicGateway.Proofs.Broker.Topic
import TopicGateway.Proofs.Broker.Topology
import TopicGateway.Proofs.Broker.Wildcards
import TopicGateway.Proofs.Command.Nesting
import TopicGateway.Proofs.Command.Publication
import TopicGateway.Proofs.Command.Reloading
import TopicGateway.Proofs.Command.Secrecy
import TopicGateway.Proofs.Config.DefaultsFile
import TopicGateway.Proofs.Config.Resolve
import TopicGateway.Proofs.Gateway.Accounting
import TopicGateway.Proofs.Gateway.Answers
import TopicGateway.Proofs.Gateway.Checks
import TopicGateway.Proofs.Gateway.Concealment
import TopicGateway.Proofs.Gateway.Contents
import TopicGateway.Proofs.Gateway.Custom
import TopicGateway.Proofs.Gateway.Decoded
import TopicGateway.Proofs.Gateway.Documented
import TopicGateway.Proofs.Gateway.Errors
import TopicGateway.Proofs.Gateway.Field
import TopicGateway.Proofs.Gateway.Forms
import TopicGateway.Proofs.Gateway.Identifiers
import TopicGateway.Proofs.Gateway.Integers
import TopicGateway.Proofs.Gateway.Policies
import TopicGateway.Proofs.Gateway.Preparing
import TopicGateway.Proofs.Gateway.Ready
import TopicGateway.Proofs.Gateway.Sending
import TopicGateway.Proofs.Gateway.Strategies
import TopicGateway.Proofs.Gateway.Uploads
import TopicGateway.Proofs.Http.Form
import TopicGateway.Proofs.Http.Parts
import TopicGateway.Proofs.Json.Agreement
import TopicGateway.Proofs.Json.Canonical
import TopicGateway.Proofs.Json.Depth
import TopicGateway.Proofs.Json.Entries
import TopicGateway.Proofs.Json.Filling
import TopicGateway.Proofs.Json.Grammar
import TopicGateway.Proofs.Json.Integers
import TopicGateway.Proofs.Json.Meaning
import TopicGateway.Proofs.Json.Members
import TopicGateway.Proofs.Json.Numbers
import TopicGateway.Proofs.Json.Passing
import TopicGateway.Proofs.Json.Places
import TopicGateway.Proofs.Json.Records
import TopicGateway.Proofs.Json.Rereading
import TopicGateway.Proofs.Json.RoundTrip
import TopicGateway.Proofs.Json.Skipping
import TopicGateway.Proofs.Json.Steps
import TopicGateway.Proofs.Json.Texts
import TopicGateway.Proofs.Message.Envelope
import TopicGateway.Proofs.Message.Exact
import TopicGateway.Proofs.Message.Overlay
import TopicGateway.Proofs.Message.Payload
import TopicGateway.Proofs.Message.Rereading
import TopicGateway.Proofs.Message.Stable
import TopicGateway.Proofs.Number.Digits
import TopicGateway.Proofs.Number.Rounding
import TopicGateway.Proofs.Number.Scaling
import TopicGateway.Proofs.Number.Shortest
import TopicGateway.Proofs.Number.Spelling
import TopicGateway.Proofs.Number.Whole
import TopicGateway.Proofs.Time.Rfc3339
import TopicGateway.Proofs.Uuid
import TopicGateway.Proofs.Yaml.Floats
import TopicGateway.Proofs.Yaml.Flow
import TopicGateway.Proofs.Yaml.Nodes
import TopicGateway.Proofs.Yaml.Records
import TopicGateway.Proofs.Yaml.Scalars
import TopicGateway.Proofs.Yaml.Tokens
import TopicGateway.Text.Alphanumeric
import TopicGateway.Text.Big5
import TopicGateway.Text.Blank
import TopicGateway.Text.Charset
import TopicGateway.Text.CodeTable
import TopicGateway.Text.Gb18030
import TopicGateway.Text.Hex
import TopicGateway.Text.Jis0208
import TopicGateway.Text.Jis0212
import TopicGateway.Text.MultiByte
import TopicGateway.Text.Printable
import TopicGateway.Text.Quoted
import TopicGateway.Text.SingleByte
import TopicGateway.Text.UnifiedHangul
import TopicGateway.Text.Utf8
import TopicGateway.Time.Instant
import TopicGateway.Time.Rfc3339
import TopicGateway.Time.Span
import TopicGateway.Uuid
import TopicGateway.Yaml.BlockScalar
import TopicGateway.Yaml.Cursor
import TopicGateway.Yaml.Document
import TopicGateway.Yaml.Event
import TopicGateway.Yaml.Fault
import TopicGateway.Yaml.Gap
import TopicGateway.Yaml.PlainScalar
import TopicGateway.Yaml.QuotedScalar
import TopicGateway.Yaml.Record
import TopicGateway.Yaml.Tag
import TopicGateway.Yaml.Token
import TopicGateway.Yaml.TokenStream
import TopicGateway.Yaml.Value
