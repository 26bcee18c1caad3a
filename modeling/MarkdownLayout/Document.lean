import MarkdownLayout.Text.Span

/-!
Parsed documents: a source text and the tree of elements that point into it.
-/

namespace MarkdownLayout

inductive ElementKind where
  | header
  | paragraph
  | bulletedList
  | numberedList
  | listItem
  | blockquote
  | codeBlock
  | lineBreak
  | horizontalRule
  | strikethrough
  | strong
  | em
  | codeSpan
  | image
  | link
  | mailTo
  | entity
  | html
  | plainRun
  | table
  | tableHeader
  | tableHeaderCell
  | tableRow
  | tableRowCell
  | unknown
  deriving DecidableEq, Repr, Inhabited

namespace ElementKind

/-- Leaves give their source text to the run around them instead of becoming nodes. -/
def isLeaf : ElementKind → Bool
  | plainRun | html | lineBreak => true
  | _ => false

def isBoundary : ElementKind → Bool
  | header | paragraph | blockquote | codeBlock | listItem => true
  | _ => false

end ElementKind

structure Element where
  kind : ElementKind
  range : Span
  children : List Element := []
  href : Option String := none
  alt : Option String := none
  level : UInt8 := 0
  deriving Repr, Inhabited

structure Document where
  source : String
  elements : List Element
  deriving Repr, Inhabited

namespace Document

/-- The source text under an element; a range outside the source gives the empty text. -/
def text (document : Document) (element : Element) : String :=
  Text.slice document.source element.range

end Document

end MarkdownLayout
