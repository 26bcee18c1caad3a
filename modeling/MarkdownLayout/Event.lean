import MarkdownLayout.Text.Span

/-!
Document events: the structure of a Markdown text in reading order. Tags open and close around the events they
enclose, and every event carries the span of source that it stands for.
-/

namespace MarkdownLayout

inductive Tag where
  | paragraph
  | heading (level : UInt8)
  | blockquote
  | codeBlock
  | htmlBlock
  | list (start : Option Nat)
  | item
  | emphasis
  | strong
  | strikethrough
  | link (destination : String) (isEmail : Bool)
  | image (destination : String)
  | table
  | tableHead
  | tableRow
  | tableCell
  | other
  deriving DecidableEq, Repr, Inhabited

/-- An event closes whatever tag was opened last. Text and code hold what the source means, which may differ
from how it is spelled there. -/
inductive Event where
  | opening (tag : Tag)
  | closing
  | text (content : String)
  | code (content : String)
  | markup
  | softBreak
  | hardBreak
  | rule
  | other
  deriving DecidableEq, Repr, Inhabited

structure LocatedEvent where
  event : Event
  span : Span
  deriving DecidableEq, Repr, Inhabited

end MarkdownLayout
