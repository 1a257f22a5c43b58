import TaskProbe.Builtin
import TaskProbe.CommandLine.Arguments
import TaskProbe.CommandLine.Basic
import TaskProbe.CommandLine.Document
import TaskProbe.Config.Environment
import TaskProbe.Config.File
import TaskProbe.Config.Settings
import TaskProbe.ContentCoding
import TaskProbe.Decimal.Binary64
import TaskProbe.Decimal.Bounds
import TaskProbe.Decimal.Numeral
import TaskProbe.Decimal.Plain
import TaskProbe.Decimal.Shortest
import TaskProbe.Error
import TaskProbe.Files
import TaskProbe.Gzip.Bits
import TaskProbe.Gzip.Crc32
import TaskProbe.Gzip.Huffman
import TaskProbe.Gzip.Inflate
import TaskProbe.Gzip.Member
import TaskProbe.Http.Exchange
import TaskProbe.Http.Message
import TaskProbe.Http.Status
import TaskProbe.Http.Wire
import TaskProbe.Json.Basic
import TaskProbe.Json.Error
import TaskProbe.Json.Layout
import TaskProbe.Json.Parser
import TaskProbe.Json.Printer
import TaskProbe.Json.Scan
import TaskProbe.Json.Shape
import TaskProbe.Json.Skip
import TaskProbe.Json.Typed
import TaskProbe.Keyed
import TaskProbe.Log.Event
import TaskProbe.Log.Filter
import TaskProbe.Log.Line
import TaskProbe.Main
import TaskProbe.Mismatch
import TaskProbe.Program
import TaskProbe.Proofs.CommandLine.AnyOrder
import TaskProbe.Proofs.CommandLine.Options
import TaskProbe.Proofs.Config.Exactness
import TaskProbe.Proofs.Config.Expansion
import TaskProbe.Proofs.Config.Layers
import TaskProbe.Proofs.Config.Placeholders
import TaskProbe.Proofs.Config.Variables
import TaskProbe.Proofs.Config.Written
import TaskProbe.Proofs.ContentCoding
import TaskProbe.Proofs.Decimal.Digits
import TaskProbe.Proofs.Decimal.Rounding
import TaskProbe.Proofs.Gzip.Compressed
import TaskProbe.Proofs.Gzip.Extent
import TaskProbe.Proofs.Gzip.Format
import TaskProbe.Proofs.Gzip.Roundtrip
import TaskProbe.Proofs.Gzip.Steps
import TaskProbe.Proofs.Gzip.Words
import TaskProbe.Proofs.Http.Exchange
import TaskProbe.Proofs.Http.Label
import TaskProbe.Proofs.Http.Redirects
import TaskProbe.Proofs.Json.Compact
import TaskProbe.Proofs.Json.Integers
import TaskProbe.Proofs.Json.Objects
import TaskProbe.Proofs.Json.Parsed
import TaskProbe.Proofs.Json.Reading
import TaskProbe.Proofs.Json.Spelling
import TaskProbe.Proofs.Json.Strings
import TaskProbe.Proofs.Json.Typed
import TaskProbe.Proofs.Json.Values
import TaskProbe.Proofs.Json.WideIntegers
import TaskProbe.Proofs.Json.Writing
import TaskProbe.Proofs.Keyed
import TaskProbe.Proofs.Outcomes
import TaskProbe.Proofs.Program.Contract
import TaskProbe.Proofs.Program.Presentation
import TaskProbe.Proofs.Program.Stages
import TaskProbe.Proofs.Task.Address
import TaskProbe.Proofs.Task.Call
import TaskProbe.Proofs.Task.Clients
import TaskProbe.Proofs.Task.Codes
import TaskProbe.Proofs.Task.Errno
import TaskProbe.Proofs.Task.Identity
import TaskProbe.Proofs.Task.Lines
import TaskProbe.Proofs.Task.Output
import TaskProbe.Proofs.Task.Replies
import TaskProbe.Proofs.Task.Requests
import TaskProbe.Proofs.Task.Rereading
import TaskProbe.Proofs.Task.Resubmission
import TaskProbe.Proofs.Task.Session
import TaskProbe.Proofs.Task.Snippets
import TaskProbe.Proofs.Task.Submission
import TaskProbe.Proofs.Task.Transparency
import TaskProbe.Proofs.Text.Runs
import TaskProbe.Proofs.Text.Trimming
import TaskProbe.Proofs.Text.Utf8
import TaskProbe.Proofs.Toml.Documents
import TaskProbe.Proofs.Toml.Reading
import TaskProbe.Proofs.Toml.Sections
import TaskProbe.Proofs.Toml.Spelling
import TaskProbe.Proofs.Toml.Tables
import TaskProbe.Proofs.Url.Percent
import TaskProbe.Proofs.Url.Web
import TaskProbe.Rule
import TaskProbe.Task.Api
import TaskProbe.Task.Client
import TaskProbe.Task.Command
import TaskProbe.Task.Id
import TaskProbe.Task.Probe
import TaskProbe.Task.ServerError
import TaskProbe.Text.Alphanumeric
import TaskProbe.Text.Blank
import TaskProbe.Text.Digits
import TaskProbe.Text.Printable
import TaskProbe.Text.Quoted
import TaskProbe.Text.Ranges
import TaskProbe.Text.Utf8
import TaskProbe.Toml.Basic
import TaskProbe.Toml.Parser
import TaskProbe.Toml.Scalar
import TaskProbe.Toml.Text
import TaskProbe.Toml.Typed
import TaskProbe.Url.Basic
import TaskProbe.Url.Host
import TaskProbe.Url.Parser
import TaskProbe.Url.Percent
