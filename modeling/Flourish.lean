import Flourish.Asset
import Flourish.Command.Arguments
import Flourish.Command.Basic
import Flourish.Command.Expansion
import Flourish.Command.Run
import Flourish.Command.Sources
import Flourish.Component
import Flourish.Context
import Flourish.Conversion
import Flourish.Diagnostic
import Flourish.Digest.Sha256
import Flourish.Document.Basic
import Flourish.Document.Reader
import Flourish.Document.Schema
import Flourish.Event
import Flourish.Expansion.Dispatch
import Flourish.Expansion.Machine
import Flourish.Expansion.Segment
import Flourish.Failure
import Flourish.FileTree.Basic
import Flourish.FileTree.Path
import Flourish.FileTree.Pattern
import Flourish.Highlight.Lexeme
import Flourish.Highlight.Terminal
import Flourish.Main
import Flourish.Manifest
import Flourish.Number.Binary64
import Flourish.Palette
import Flourish.Primitive
import Flourish.Processor.Basic
import Flourish.Processor.Run
import Flourish.Processor.Session
import Flourish.Project
import Flourish.Proofs.Color
import Flourish.Proofs.Command.Assets
import Flourish.Proofs.Command.Run
import Flourish.Proofs.Command.Sources
import Flourish.Proofs.Command.Stage
import Flourish.Proofs.Command.Writing
import Flourish.Proofs.Component
import Flourish.Proofs.Content
import Flourish.Proofs.Conversion
import Flourish.Proofs.Diagnostic
import Flourish.Proofs.Divider
import Flourish.Proofs.Expansion.Advice
import Flourish.Proofs.Expansion.Ahead
import Flourish.Proofs.Expansion.Answer
import Flourish.Proofs.Expansion.Backend
import Flourish.Proofs.Expansion.Bound
import Flourish.Proofs.Expansion.Call
import Flourish.Proofs.Expansion.Code
import Flourish.Proofs.Expansion.Collected
import Flourish.Proofs.Expansion.Decision
import Flourish.Proofs.Expansion.Drawn
import Flourish.Proofs.Expansion.Element
import Flourish.Proofs.Expansion.Ends
import Flourish.Proofs.Expansion.Forest
import Flourish.Proofs.Expansion.Forwarding
import Flourish.Proofs.Expansion.Job
import Flourish.Proofs.Expansion.Limit
import Flourish.Proofs.Expansion.Lockstep
import Flourish.Proofs.Expansion.Mapping
import Flourish.Proofs.Expansion.Moved
import Flourish.Proofs.Expansion.Offset
import Flourish.Proofs.Expansion.Paragraph
import Flourish.Proofs.Expansion.Promotion
import Flourish.Proofs.Expansion.Reads
import Flourish.Proofs.Expansion.Recursion
import Flourish.Proofs.Expansion.Run
import Flourish.Proofs.Expansion.Segment
import Flourish.Proofs.Expansion.Stage
import Flourish.Proofs.Expansion.Step
import Flourish.Proofs.Expansion.Styled
import Flourish.Proofs.Expansion.Tree
import Flourish.Proofs.Expansion.Unfold
import Flourish.Proofs.Expansion.Untagged
import Flourish.Proofs.Expansion.Visible
import Flourish.Proofs.Expansion.Yield
import Flourish.Proofs.Failure.Advice
import Flourish.Proofs.Failure.Ends
import Flourish.Proofs.Failure.Placed
import Flourish.Proofs.Failure.Unplaced
import Flourish.Proofs.FileTree
import Flourish.Proofs.Forwarding
import Flourish.Proofs.Highlight.Colored
import Flourish.Proofs.Highlight.Diagnostic
import Flourish.Proofs.Highlight.Head
import Flourish.Proofs.Highlight.Match
import Flourish.Proofs.Highlight.Normalized
import Flourish.Proofs.Highlight.Pattern
import Flourish.Proofs.Highlight.Reading
import Flourish.Proofs.Highlight.Rule
import Flourish.Proofs.Highlight.Spelled
import Flourish.Proofs.Html
import Flourish.Proofs.Html.Written
import Flourish.Proofs.Image
import Flourish.Proofs.Palette
import Flourish.Proofs.Palette.Extended
import Flourish.Proofs.Palette.Fragments
import Flourish.Proofs.Palette.References
import Flourish.Proofs.Palette.Settled
import Flourish.Proofs.Region.Cut
import Flourish.Proofs.Region.Read
import Flourish.Proofs.Registry.Accepted
import Flourish.Proofs.Registry.Advice
import Flourish.Proofs.Registry.Exact
import Flourish.Proofs.Registry.Fault
import Flourish.Proofs.Registry.Lookup
import Flourish.Proofs.Registry.Regular
import Flourish.Proofs.Registry.Separator
import Flourish.Proofs.Registry.Shape
import Flourish.Proofs.Registry.ShieldStyle
import Flourish.Proofs.Row
import Flourish.Proofs.Session
import Flourish.Proofs.Span.Classify
import Flourish.Proofs.Span.Cover
import Flourish.Proofs.Span.Join
import Flourish.Proofs.Span.Line
import Flourish.Proofs.Span.Local
import Flourish.Proofs.Span.Refine
import Flourish.Proofs.Span.Scan
import Flourish.Proofs.Substitution
import Flourish.Proofs.Table
import Flourish.Proofs.Tag.Ahead
import Flourish.Proofs.Tag.Cut
import Flourish.Proofs.Tag.Descent
import Flourish.Proofs.Tag.Form
import Flourish.Proofs.Tag.Found
import Flourish.Proofs.Tag.Grammar
import Flourish.Proofs.Tag.Head
import Flourish.Proofs.Tag.Moved
import Flourish.Proofs.Tag.Pairing
import Flourish.Proofs.Tag.Positional
import Flourish.Proofs.Tag.Written
import Flourish.Proofs.Text.Collapsed
import Flourish.Proofs.Text.Fields
import Flourish.Proofs.Text.Numeral
import Flourish.Proofs.Text.Search
import Flourish.Proofs.Text.Similarity
import Flourish.Region.Basic
import Flourish.Region.Match
import Flourish.Region.Read
import Flourish.Registry.Basic
import Flourish.Registry.Definition
import Flourish.Registry.Listing
import Flourish.Registry.Load
import Flourish.Registry.Separator
import Flourish.Registry.Standard
import Flourish.Renderer.Backend
import Flourish.Renderer.Basic
import Flourish.Renderer.Plain
import Flourish.Renderer.Shields
import Flourish.Renderer.Svg
import Flourish.Settings.Basic
import Flourish.Settings.Read
import Flourish.Shield
import Flourish.Span.Basic
import Flourish.Span.Refine
import Flourish.Span.Scan
import Flourish.Substitution
import Flourish.Table
import Flourish.Tag.Basic
import Flourish.Tag.Match
import Flourish.Tag.Read
import Flourish.Text.Basic
import Flourish.Text.Blank
import Flourish.Text.Cluster
import Flourish.Text.Cluster.Class
import Flourish.Text.Digit
import Flourish.Text.Escaped
import Flourish.Text.Numeral
import Flourish.Text.Percent
import Flourish.Text.Printable
import Flourish.Text.Quoted
import Flourish.Text.Similarity
import Flourish.Text.Uppercase
import Flourish.Text.Utf8
import Flourish.Transform
