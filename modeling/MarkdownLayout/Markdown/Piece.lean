import MarkdownLayout.Event

/-!
Events as a tree: a piece is one event, or a tag around the pieces it encloses. Reading the tree in order gives
events whose tags are balanced.
-/

namespace MarkdownLayout.Markdown

inductive Piece where
  | single (event : Event) (span : Span)
  | nested (tag : Tag) (span : Span) (inside : List Piece)
  deriving Repr, Inhabited

namespace Piece

mutual

def events (place : Span → Span) : Piece → List LocatedEvent
  | single event span => [⟨event, place span⟩]
  | nested tag span inside =>
    ⟨.opening tag, place span⟩ :: (eventsOf place inside ++ [⟨.closing, place span⟩])

def eventsOf (place : Span → Span) : List Piece → List LocatedEvent
  | [] => []
  | piece :: rest => events place piece ++ eventsOf place rest

end

end Piece

end MarkdownLayout.Markdown
