import TestScribe.CommandLine.Command
import TestScribe.CommandLine.Run
import TestScribe.CommandLine.Switch
import TestScribe.Config.Defaults
import TestScribe.Config.File
import TestScribe.Decimal.Notation
import TestScribe.Decimal.Reading
import TestScribe.Decimal.Shortest
import TestScribe.Failure
import TestScribe.FileTree.Basic
import TestScribe.FileTree.Path
import TestScribe.Framework
import TestScribe.Json.Basic
import TestScribe.Json.Document
import TestScribe.Json.Meaning
import TestScribe.Json.Printer
import TestScribe.Json.Reader
import TestScribe.Json.Record
import TestScribe.Machine.Basic
import TestScribe.Machine.Destination
import TestScribe.Machine.Manifest
import TestScribe.Machine.Memory
import TestScribe.Main
import TestScribe.Pattern.Basic
import TestScribe.Pattern.Search
import TestScribe.Proofs.CommandLine.Arguments
import TestScribe.Proofs.CommandLine.Configuration
import TestScribe.Proofs.CommandLine.Delivery
import TestScribe.Proofs.CommandLine.Fronts
import TestScribe.Proofs.CommandLine.Generating
import TestScribe.Proofs.CommandLine.Listing
import TestScribe.Proofs.Config.File
import TestScribe.Proofs.Config.Precedence
import TestScribe.Proofs.Decimal.Overflow
import TestScribe.Proofs.Decimal.Rounding
import TestScribe.Proofs.FileTree.Growth
import TestScribe.Proofs.FileTree.Passing
import TestScribe.Proofs.FileTree.Walking
import TestScribe.Proofs.Framework.Rephrasing
import TestScribe.Proofs.Json.Completeness
import TestScribe.Proofs.Json.Encoding
import TestScribe.Proofs.Json.Fields
import TestScribe.Proofs.Json.Grammar
import TestScribe.Proofs.Json.Integer
import TestScribe.Proofs.Json.Layout
import TestScribe.Proofs.Json.Limits
import TestScribe.Proofs.Json.Meaning
import TestScribe.Proofs.Json.Members
import TestScribe.Proofs.Json.Printing
import TestScribe.Proofs.Json.Soundness
import TestScribe.Proofs.Machine.Destination
import TestScribe.Proofs.Machine.Detection
import TestScribe.Proofs.Machine.Framing
import TestScribe.Proofs.Machine.Observing
import TestScribe.Proofs.Machine.Writing
import TestScribe.Proofs.Pattern.Finding
import TestScribe.Proofs.Pattern.LineEnds
import TestScribe.Proofs.Pattern.Matches
import TestScribe.Proofs.Pattern.Takes
import TestScribe.Proofs.Provider.Address
import TestScribe.Proofs.Provider.Agreement
import TestScribe.Proofs.Provider.Envelope
import TestScribe.Proofs.Provider.ModelUrl
import TestScribe.Proofs.Provider.Parsing
import TestScribe.Proofs.Provider.Request
import TestScribe.Proofs.Provider.Temperature
import TestScribe.Proofs.Script.Closed
import TestScribe.Proofs.Script.Literal
import TestScribe.Proofs.Script.Outline
import TestScribe.Proofs.Script.Scan
import TestScribe.Proofs.Session.Asking
import TestScribe.Proofs.Session.Boundary
import TestScribe.Proofs.Session.Calls
import TestScribe.Proofs.Session.Credential
import TestScribe.Proofs.Session.Fallback
import TestScribe.Proofs.Session.Keyless
import TestScribe.Proofs.Session.Response
import TestScribe.Proofs.Session.RoundTrip
import TestScribe.Proofs.Session.Selection
import TestScribe.Proofs.Source.Alone
import TestScribe.Proofs.Source.AnnotatedList
import TestScribe.Proofs.Source.Arity
import TestScribe.Proofs.Source.BindingReading
import TestScribe.Proofs.Source.Closing
import TestScribe.Proofs.Source.Discovery
import TestScribe.Proofs.Source.Extraction
import TestScribe.Proofs.Source.Heads
import TestScribe.Proofs.Source.Keywords
import TestScribe.Proofs.Source.LineEnds
import TestScribe.Proofs.Source.LineFunction
import TestScribe.Proofs.Source.Locality
import TestScribe.Proofs.Source.Naming
import TestScribe.Proofs.Source.Opening
import TestScribe.Proofs.Source.ParameterList
import TestScribe.Proofs.Source.Reading
import TestScribe.Proofs.Source.Recovery
import TestScribe.Proofs.Source.Rejoining
import TestScribe.Proofs.Source.Representation
import TestScribe.Proofs.Source.Searching
import TestScribe.Proofs.Source.Sites
import TestScribe.Proofs.Source.Splitting
import TestScribe.Proofs.Source.TopLevel
import TestScribe.Proofs.TestCase.Drafting
import TestScribe.Proofs.TestCase.Printing
import TestScribe.Proofs.TestCase.Reading
import TestScribe.Proofs.TestCase.Shape
import TestScribe.Proofs.TestFile.Layout
import TestScribe.Proofs.TestFile.Matchers
import TestScribe.Proofs.TestFile.Statements
import TestScribe.Proofs.TestFile.Titles
import TestScribe.Proofs.Text.Characters
import TestScribe.Proofs.Text.LineEnds
import TestScribe.Proofs.Text.Lines
import TestScribe.Proofs.Text.Octets
import TestScribe.Proofs.Url.Domain
import TestScribe.Proofs.Url.Ending
import TestScribe.Proofs.Url.Form
import TestScribe.Proofs.Url.Host
import TestScribe.Proofs.Url.Pairs
import TestScribe.Proofs.Url.Reading
import TestScribe.Provider.Basic
import TestScribe.Provider.Fingerprint
import TestScribe.Provider.Prompt
import TestScribe.Provider.Reply
import TestScribe.Provider.Request
import TestScribe.Provider.Settings
import TestScribe.Session.Basic
import TestScribe.Session.Message
import TestScribe.Source.Body
import TestScribe.Source.Extract
import TestScribe.Source.Form
import TestScribe.Source.FunctionInfo
import TestScribe.Source.Parameters
import TestScribe.TestCase.Basic
import TestScribe.TestCase.Decode
import TestScribe.TestCase.Heuristic
import TestScribe.TestFile
import TestScribe.Text.Blank
import TestScribe.Text.Class
import TestScribe.Text.Composition
import TestScribe.Text.Direction
import TestScribe.Text.Joining
import TestScribe.Text.Lines
import TestScribe.Text.Mark
import TestScribe.Text.Octets
import TestScribe.Text.Quoted
import TestScribe.Text.Table
import TestScribe.Toml.Basic
import TestScribe.Toml.Reader
import TestScribe.Toml.Scalar
import TestScribe.Url.Basic
import TestScribe.Url.Domain
import TestScribe.Url.Folding
import TestScribe.Url.Form
import TestScribe.Url.Host
import TestScribe.Url.Percent
import TestScribe.Url.Punycode
