import MarkdownLayout.Markdown.Blocks
import MarkdownLayout.Markdown.Emphasis

/-!
The events of a Markdown text. Its blocks are read first, since a link may refer to a definition at the end of
the text; then their inline content.
-/

namespace MarkdownLayout.Markdown

structure Definitions where
  source : Source
  destination? : String → Option String
  isFootnote : String → Bool

namespace Definitions

def ofBlocks (s : Source) (b : Blocks) : Definitions :=
  { source := s, destination? := b.destination?, isFootnote := fun label => b.footnotes.contains label }

def inline (d : Definitions) (inTable : Bool) (content : InlineText) : List Piece :=
  let context : InlineContext :=
    { source := Array.extract d.source 0 content.stop, lineStarts := content.lineStarts, inTable,
      destination? := d.destination?, isFootnote := d.isFootnote }
  Emphasis.resolve {} (context.inlines content.tokens)

def codePiece (d : Definitions) (token : Token) : Piece :=
  match token.mark with
  | .entity content => .single (.text content) token.span
  | _ => .single (.text (d.source.text token.span.start token.span.stop)) token.span

def markupPiece (token : Token) : Piece :=
  match token.mark with
  | .entity content => .single (.text content) token.span
  | _ => .single .markup token.span

def cell (d : Definitions) (cell : Cell) : Piece :=
  .nested .tableCell cell.span (d.inline true cell.content)

def table (d : Definitions) (span : Span) : List Row → Piece
  | [] => .nested .table span []
  | header :: rows =>
    .nested .table span
      (.nested .tableHead header.span (header.cells.map d.cell) ::
        rows.map fun row => .nested .tableRow row.span (row.cells.map d.cell))

mutual

/-- The pieces of a block. Paragraphs directly in an item of a tight list are only their content. -/
def pieces (d : Definitions) (inTightList : Bool) : Block → List Piece
  | .paragraph span content =>
    if inTightList then d.inline false content else [.nested .paragraph span (d.inline false content)]
  | .heading level span content => [.nested (.heading (UInt8.ofNat level)) span (d.inline false content)]
  | .rule span => [.single .rule span]
  | .code span tokens => [.nested .codeBlock span (tokens.map d.codePiece)]
  | .html span tokens => [.nested .htmlBlock span (tokens.map markupPiece)]
  | .table span rows => [d.table span rows]
  | .taskBox span => [.single .other span]
  | .blockquote span blocks => [.nested .blockquote span (d.piecesOf false blocks)]
  | .list start isTight span items => [.nested (.list start) span (d.piecesOf isTight items)]
  | .item span blocks => [.nested .item span (d.piecesOf inTightList blocks)]
  | .footnote span blocks => [.nested .other span (d.piecesOf false blocks)]

def piecesOf (d : Definitions) (inTightList : Bool) : List Block → List Piece
  | [] => []
  | block :: rest => d.pieces inTightList block ++ d.piecesOf inTightList rest

end

end Definitions

def events (markdown : String) : List LocatedEvent :=
  let s := Source.ofString markdown
  let blocks := Blocks.ofSource s
  let offsets := s.byteOffsets
  let place (span : Span) : Span := ⟨offsets.getD span.start 0, offsets.getD span.stop 0⟩
  Piece.eventsOf place ((Definitions.ofBlocks s blocks).piecesOf false blocks.finished.reverse)

end MarkdownLayout.Markdown
