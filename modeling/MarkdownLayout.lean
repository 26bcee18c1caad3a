import MarkdownLayout.Assembly
import MarkdownLayout.Builder
import MarkdownLayout.Color
import MarkdownLayout.CommandLine
import MarkdownLayout.CommandLine.Arguments
import MarkdownLayout.Data
import MarkdownLayout.Decorate
import MarkdownLayout.Document
import MarkdownLayout.Event
import MarkdownLayout.Exchange.Markdown
import MarkdownLayout.Exchange.Node
import MarkdownLayout.Exchange.Profile
import MarkdownLayout.Exchange.ProfileFile
import MarkdownLayout.Exchange.Record
import MarkdownLayout.Exchange.Rendering
import MarkdownLayout.Exchange.Style
import MarkdownLayout.Files
import MarkdownLayout.Files.Tree
import MarkdownLayout.FrontMatter
import MarkdownLayout.Json.Printer
import MarkdownLayout.Json.Reader
import MarkdownLayout.Loading.Board
import MarkdownLayout.Loading.Bridges
import MarkdownLayout.Loading.Cache
import MarkdownLayout.Loading.Dispatch
import MarkdownLayout.Loading.Fetches
import MarkdownLayout.Loading.LocalImage
import MarkdownLayout.Loading.Outcome
import MarkdownLayout.Loading.SharedCache
import MarkdownLayout.Markdown
import MarkdownLayout.Markdown.Block
import MarkdownLayout.Markdown.BlockStart
import MarkdownLayout.Markdown.Blocks
import MarkdownLayout.Markdown.CodeBlock
import MarkdownLayout.Markdown.Emphasis
import MarkdownLayout.Markdown.Entity
import MarkdownLayout.Markdown.EntityNames
import MarkdownLayout.Markdown.Html
import MarkdownLayout.Markdown.Inline
import MarkdownLayout.Markdown.Link
import MarkdownLayout.Markdown.Margin
import MarkdownLayout.Markdown.Paragraph
import MarkdownLayout.Markdown.Piece
import MarkdownLayout.Markdown.Reading
import MarkdownLayout.Markdown.Source
import MarkdownLayout.Markdown.Token
import MarkdownLayout.Node
import MarkdownLayout.Node.Outline
import MarkdownLayout.Profile
import MarkdownLayout.Rendering
import MarkdownLayout.Scalar
import MarkdownLayout.Scalar.Rounding
import MarkdownLayout.Scalar.Shortest
import MarkdownLayout.Style
import MarkdownLayout.Style.Block
import MarkdownLayout.Text.CaseFold
import MarkdownLayout.Text.Character
import MarkdownLayout.Text.GraphemeExtend
import MarkdownLayout.Text.Punctuation
import MarkdownLayout.Text.Quoted
import MarkdownLayout.Text.Span
import MarkdownLayout.Text.Unprintable
import MarkdownLayout.TextBuffer
import MarkdownLayout.Toml.Lexeme
import MarkdownLayout.Toml.Reader
import MarkdownLayout.Toml.Scalar
import MarkdownLayout.Toml.Table
import MarkdownLayout.Url
import MarkdownLayout.Url.HostParser
import MarkdownLayout.Url.LocalFile
import MarkdownLayout.Url.Parser
import MarkdownLayout.Url.Percent
import MarkdownLayout.Url.Punycode
import MarkdownLayout.View
import MarkdownLayout.View.Desk
import MarkdownLayout.View.Edit
import MarkdownLayout.Main
import MarkdownLayout.Proofs.Glyph
import MarkdownLayout.Proofs.Provenance
import MarkdownLayout.Proofs.Visit
import MarkdownLayout.Proofs.DocumentOrder
import MarkdownLayout.Proofs.Conservation
import MarkdownLayout.Proofs.Containment
import MarkdownLayout.Proofs.ImageNumbering
import MarkdownLayout.Proofs.DispatchRun
import MarkdownLayout.Proofs.Invalidation
import MarkdownLayout.Proofs.ViewRun
import MarkdownLayout.Proofs.LoadBookkeeping
import MarkdownLayout.Proofs.EventBalance
import MarkdownLayout.Proofs.EventTree
import MarkdownLayout.Proofs.Restyling
import MarkdownLayout.Proofs.Slices
import MarkdownLayout.Proofs.InlineText
import MarkdownLayout.Proofs.Prose
import MarkdownLayout.Proofs.Concatenation
import MarkdownLayout.Proofs.ViewConsistency
import MarkdownLayout.Proofs.JsonValue
import MarkdownLayout.Proofs.RoundTrip
import MarkdownLayout.Proofs.CacheCoherence
import MarkdownLayout.Proofs.Inheritance
import MarkdownLayout.Proofs.StyledText
import MarkdownLayout.Proofs.SourceRanges
import MarkdownLayout.Proofs.Transparency
import MarkdownLayout.Proofs.WalkLaw
import MarkdownLayout.Proofs.WellFormedNodes
import MarkdownLayout.Proofs.FinalBreak
import MarkdownLayout.Proofs.InlineBlock
import MarkdownLayout.Proofs.ListNumbering
import MarkdownLayout.Proofs.ColorSpelling
import MarkdownLayout.Proofs.FrontMatter
import MarkdownLayout.Proofs.LinkMap
import MarkdownLayout.Proofs.AlternativeText
import MarkdownLayout.Proofs.OutlineLines
import MarkdownLayout.Proofs.DecorationLayers
import MarkdownLayout.Proofs.RecordFields
import MarkdownLayout.Proofs.PartialProfiles
import MarkdownLayout.Proofs.ElementFrame
