import HttpAudit.Capture.Body
import HttpAudit.Capture.Sink
import HttpAudit.Command.Failure
import HttpAudit.Command.Invocation
import HttpAudit.Command.Needs
import HttpAudit.Command.Options
import HttpAudit.Command.Run
import HttpAudit.Command.Usage
import HttpAudit.Config.Basic
import HttpAudit.Delivery.Pipeline
import HttpAudit.Delivery.Queue
import HttpAudit.Delivery.Request
import HttpAudit.Delivery.Switch
import HttpAudit.Delivery.Target
import HttpAudit.Json.Number
import HttpAudit.Json.Parser
import HttpAudit.Json.Record
import HttpAudit.Json.Skip
import HttpAudit.Json.Value
import HttpAudit.Logger.Basic
import HttpAudit.Logger.Options
import HttpAudit.Main
import HttpAudit.Message.Basic
import HttpAudit.Message.Build
import HttpAudit.Message.ContentType
import HttpAudit.Message.Facts
import HttpAudit.Message.FactsJson
import HttpAudit.Message.Trailer
import HttpAudit.Number.Double
import HttpAudit.Number.Shortest
import HttpAudit.Pattern.Assertion
import HttpAudit.Pattern.Basic
import HttpAudit.Pattern.Bracket
import HttpAudit.Pattern.CharClass
import HttpAudit.Pattern.Escape
import HttpAudit.Pattern.Flags
import HttpAudit.Pattern.Node
import HttpAudit.Pattern.Parser
import HttpAudit.Pattern.PropertyClass
import HttpAudit.Pattern.Search
import HttpAudit.Pattern.Size
import HttpAudit.Pattern.Syntax
import HttpAudit.Pattern.Template
import HttpAudit.Policy.Apply
import HttpAudit.Policy.Basic
import HttpAudit.Policy.Canned
import HttpAudit.Policy.Defaults
import HttpAudit.Policy.Include
import HttpAudit.Policy.Index
import HttpAudit.Policy.Session
import HttpAudit.Proofs.Rule.Form
import HttpAudit.Rule.Basic
import HttpAudit.Rule.Error
import HttpAudit.Rule.Literal
import HttpAudit.Rule.Parser
import HttpAudit.Rule.Replacement
import HttpAudit.Rule.Sentence
import HttpAudit.Rule.Verb
import HttpAudit.Text.Age
import HttpAudit.Text.Blank
import HttpAudit.Text.Case
import HttpAudit.Text.Category
import HttpAudit.Text.Direction
import HttpAudit.Text.Lowercase
import HttpAudit.Text.Property
import HttpAudit.Text.Quoted
import HttpAudit.Text.RunMap
import HttpAudit.Text.Script
import HttpAudit.Text.Segment
import HttpAudit.Text.Utf8
import HttpAudit.Url.Address
import HttpAudit.Url.Domain
import HttpAudit.Url.DomainStatus
import HttpAudit.Url.Punycode
import HttpAudit.Url.Web
import HttpAudit.Yaml.Block
import HttpAudit.Yaml.Cursor
import HttpAudit.Yaml.Entries
import HttpAudit.Yaml.Gap
import HttpAudit.Yaml.Plain
import HttpAudit.Yaml.Quoted
import HttpAudit.Yaml.Scalar
import HttpAudit.Yaml.Scanner
import HttpAudit.Yaml.Tag
import HttpAudit.Yaml.Token
import HttpAudit.Zlib.Adler32
import HttpAudit.Zlib.Bits
import HttpAudit.Zlib.Deflate
import HttpAudit.Zlib.Huffman
import HttpAudit.Zlib.Inflate
import HttpAudit.Zlib.Token
import HttpAudit.Proofs.Policy.Index
import HttpAudit.Proofs.Policy.OnePass
import HttpAudit.Proofs.Delivery.Interleaving
import HttpAudit.Proofs.Delivery.Accounts
import HttpAudit.Proofs.Rule.Reading
import HttpAudit.Proofs.Rule.Literal
import HttpAudit.Proofs.Rule.Comment
import HttpAudit.Proofs.Pattern.Run
import HttpAudit.Proofs.Pattern.Spans
import HttpAudit.Proofs.Pattern.Prefix
import HttpAudit.Proofs.Pattern.Repetition
import HttpAudit.Proofs.Pattern.Replace
import HttpAudit.Proofs.Json.Spelling
import HttpAudit.Proofs.Json.Compact
import HttpAudit.Proofs.Json.Array
import HttpAudit.Proofs.Message.Text
import HttpAudit.Proofs.Policy.Clip
import HttpAudit.Proofs.Policy.Strict
import HttpAudit.Proofs.Text.Lowercase
import HttpAudit.Proofs.Logger.Residue
import HttpAudit.Proofs.Policy.Erasure
import HttpAudit.Proofs.Text.Lines
import HttpAudit.Proofs.Policy.Include
import HttpAudit.Proofs.Policy.Compilation
import HttpAudit.Proofs.Rule.Spelling
import HttpAudit.Proofs.Rule.Unambiguous
import HttpAudit.Proofs.Rule.Phrase
import HttpAudit.Proofs.Rule.Grammar
import HttpAudit.Proofs.Delivery.History
import HttpAudit.Proofs.Pattern.Counted
import HttpAudit.Proofs.Pattern.Verbatim
import HttpAudit.Proofs.Policy.Tightening
import HttpAudit.Proofs.Policy.Reordering
import HttpAudit.Proofs.Policy.Standard
import HttpAudit.Proofs.Text.Utf8
import HttpAudit.Proofs.Capture.Accepted
import HttpAudit.Proofs.Delivery.Address
import HttpAudit.Proofs.Logger.Calls
import HttpAudit.Proofs.Logger.Format
import HttpAudit.Proofs.Policy.Adjacent
import HttpAudit.Proofs.Policy.Defaults
import HttpAudit.Proofs.Pattern.Departure
import HttpAudit.Proofs.Policy.Complement
import HttpAudit.Proofs.Zlib.Bits
import HttpAudit.Proofs.Zlib.RoundTrip
import HttpAudit.Proofs.Zlib.Stream
import HttpAudit.Proofs.Delivery.Single
import HttpAudit.Proofs.Delivery.Content
import HttpAudit.Proofs.Command.Check
import HttpAudit.Proofs.Command.Submit
import HttpAudit.Proofs.Pattern.Reading
import HttpAudit.Proofs.Pattern.Choices
import HttpAudit.Proofs.Rule.Anchor
import HttpAudit.Proofs.Rule.Encoding
import HttpAudit.Proofs.Policy.HeldRules
import HttpAudit.Proofs.Rule.Replacement
import HttpAudit.Proofs.Capture.Transparent
import HttpAudit.Proofs.Json.Members
import HttpAudit.Proofs.Json.Skip
import HttpAudit.Proofs.Json.RoundTrip
import HttpAudit.Proofs.Json.Record
import HttpAudit.Proofs.Message.Facts
