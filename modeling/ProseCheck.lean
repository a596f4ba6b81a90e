import ProseCheck.Association
import ProseCheck.Bisect
import ProseCheck.Cache.Basic
import ProseCheck.Cache.Key
import ProseCheck.Check.Chunks
import ProseCheck.Check.Pass
import ProseCheck.Check.Progress
import ProseCheck.Check.Run
import ProseCheck.Chunk.Builder
import ProseCheck.Chunk.Collector
import ProseCheck.Chunk.Draft
import ProseCheck.Chunk.Piece
import ProseCheck.Chunk.PositionMap
import ProseCheck.CommandLine.Arguments
import ProseCheck.CommandLine.Command
import ProseCheck.CommandLine.Flags
import ProseCheck.CommandLine.Group
import ProseCheck.CommandLine.Run
import ProseCheck.Decimal.Nearest
import ProseCheck.Decimal.Shortest
import ProseCheck.Diagnostic
import ProseCheck.Digest
import ProseCheck.Directory
import ProseCheck.Document
import ProseCheck.Domain.Characters
import ProseCheck.Domain.Label
import ProseCheck.Domain.Punycode
import ProseCheck.Emoji.Basic
import ProseCheck.Emoji.Table
import ProseCheck.Environment.Binding
import ProseCheck.Environment.Template
import ProseCheck.Json.Basic
import ProseCheck.Json.Encoding
import ProseCheck.Json.Reader
import ProseCheck.Json.Writer
import ProseCheck.LanguageCode
import ProseCheck.Layout.Conversion
import ProseCheck.Layout.Interchange
import ProseCheck.Layout.Page
import ProseCheck.Location
import ProseCheck.Main
import ProseCheck.Markup.Conversion
import ProseCheck.Markup.Escape
import ProseCheck.Node.Basic
import ProseCheck.Node.Interchange
import ProseCheck.Node.Kind
import ProseCheck.Options.Basic
import ProseCheck.Options.Sources
import ProseCheck.Proofs.Cache.Key
import ProseCheck.Proofs.Cache.Paragraphs
import ProseCheck.Proofs.Cache.Queue
import ProseCheck.Proofs.Check.Course
import ProseCheck.Proofs.Check.FanOut
import ProseCheck.Proofs.Check.Increment
import ProseCheck.Proofs.Check.Judgement
import ProseCheck.Proofs.Check.Ordered
import ProseCheck.Proofs.Check.Recheck
import ProseCheck.Proofs.Check.Record
import ProseCheck.Proofs.Check.Recorded
import ProseCheck.Proofs.Check.Remote
import ProseCheck.Proofs.Check.Renaming
import ProseCheck.Proofs.Check.Shares
import ProseCheck.Proofs.Chunk.Agreement
import ProseCheck.Proofs.Chunk.Building
import ProseCheck.Proofs.Chunk.Ending
import ProseCheck.Proofs.Chunk.Face
import ProseCheck.Proofs.Chunk.Joining
import ProseCheck.Proofs.Chunk.Mark
import ProseCheck.Proofs.Chunk.Ownership
import ProseCheck.Proofs.Chunk.Reading
import ProseCheck.Proofs.Chunk.Renaming
import ProseCheck.Proofs.Chunk.Separator
import ProseCheck.Proofs.Chunk.Sized
import ProseCheck.Proofs.Chunk.Stretch
import ProseCheck.Proofs.Chunk.Successive
import ProseCheck.Proofs.CommandLine.Dispatch
import ProseCheck.Proofs.Document.Assembly
import ProseCheck.Proofs.Document.Loading
import ProseCheck.Proofs.Document.Written
import ProseCheck.Proofs.Json.Canonical
import ProseCheck.Proofs.Json.Written
import ProseCheck.Proofs.Layout.Boundary
import ProseCheck.Proofs.Layout.Languages
import ProseCheck.Proofs.Layout.Located
import ProseCheck.Proofs.Layout.Parts
import ProseCheck.Proofs.Layout.Runs
import ProseCheck.Proofs.Layout.Wrapped
import ProseCheck.Proofs.Layout.Written
import ProseCheck.Proofs.Location.Canonical
import ProseCheck.Proofs.Location.Insertion
import ProseCheck.Proofs.Location.Leading
import ProseCheck.Proofs.Location.Order
import ProseCheck.Proofs.Location.Overlap
import ProseCheck.Proofs.Location.Renaming
import ProseCheck.Proofs.Location.Union
import ProseCheck.Proofs.Location.Verbatim
import ProseCheck.Proofs.Markup.Boundary
import ProseCheck.Proofs.Markup.Escape
import ProseCheck.Proofs.Markup.Exact
import ProseCheck.Proofs.Markup.Invisibility
import ProseCheck.Proofs.Markup.Lossless
import ProseCheck.Proofs.Markup.ProseNodes
import ProseCheck.Proofs.Markup.Renaming
import ProseCheck.Proofs.Markup.Separators
import ProseCheck.Proofs.Markup.TextLeaves
import ProseCheck.Proofs.Markup.Walk
import ProseCheck.Proofs.Node.Tree
import ProseCheck.Proofs.Node.Written
import ProseCheck.Proofs.Options.FlagOrSetting
import ProseCheck.Proofs.Options.Flags
import ProseCheck.Proofs.Options.Names
import ProseCheck.Proofs.Options.Precedence
import ProseCheck.Proofs.Options.Sources
import ProseCheck.Proofs.Prose.Conversion
import ProseCheck.Proofs.Prose.Normal
import ProseCheck.Proofs.Prose.Occurrence
import ProseCheck.Proofs.Prose.Portions
import ProseCheck.Proofs.Prose.Resume
import ProseCheck.Proofs.Prose.Runs
import ProseCheck.Proofs.Prose.Tokens
import ProseCheck.Proofs.Reading
import ProseCheck.Proofs.Report.Position
import ProseCheck.Proofs.Report.Snippet
import ProseCheck.Proofs.Server.Content
import ProseCheck.Proofs.Server.Faults
import ProseCheck.Proofs.Server.Matches
import ProseCheck.Proofs.Server.Reply
import ProseCheck.Proofs.Session.Overtaking
import ProseCheck.Proofs.Session.Phases
import ProseCheck.Proofs.Session.Serial
import ProseCheck.Proofs.Session.Standing
import ProseCheck.Proofs.Session.Transparency
import ProseCheck.Proofs.Source.Index
import ProseCheck.Proofs.Source.Line
import ProseCheck.Proofs.Source.Numbering
import ProseCheck.Proofs.Source.Renaming
import ProseCheck.Proofs.Source.Row
import ProseCheck.Proofs.Text.Lines
import ProseCheck.Proofs.Text.Numeral
import ProseCheck.Proofs.Text.Octets
import ProseCheck.Proofs.Text.Units
import ProseCheck.Proofs.Text.Utf8
import ProseCheck.Proofs.Validation.Parts
import ProseCheck.Prose
import ProseCheck.Report.Console
import ProseCheck.Report.Listing
import ProseCheck.Report.Wrapping
import ProseCheck.Request
import ProseCheck.Rules
import ProseCheck.Segment
import ProseCheck.Server.Basic
import ProseCheck.Server.Client
import ProseCheck.Server.Reply
import ProseCheck.Server.Scripted
import ProseCheck.Service.Basic
import ProseCheck.Service.Resource
import ProseCheck.Session.Basic
import ProseCheck.Session.Timeline
import ProseCheck.Settings
import ProseCheck.Slice
import ProseCheck.Source.Basic
import ProseCheck.Source.Placement
import ProseCheck.Suggestion
import ProseCheck.Text.Basic
import ProseCheck.Text.Blank
import ProseCheck.Text.Columns
import ProseCheck.Text.Composition
import ProseCheck.Text.Digits
import ProseCheck.Text.Lines
import ProseCheck.Text.Lower
import ProseCheck.Text.Numeral
import ProseCheck.Text.Pattern
import ProseCheck.Text.Printable
import ProseCheck.Text.Ranges
import ProseCheck.Text.Units
import ProseCheck.Text.Upper
import ProseCheck.Text.Utf8
import ProseCheck.Url.Basic
import ProseCheck.Url.Host
import ProseCheck.Validation.Basic
import ProseCheck.Validation.Scalar
import ProseCheck.World
import ProseCheck.Yaml.Cursor
import ProseCheck.Yaml.Literal
import ProseCheck.Yaml.Node
import ProseCheck.Yaml.Plain
import ProseCheck.Yaml.Quoted
import ProseCheck.Yaml.Spelling
import ProseCheck.Yaml.Tag
import ProseCheck.Yaml.Token
import ProseCheck.Yaml.Value
