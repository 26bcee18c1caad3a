import MarkdownLayout.Builder
import MarkdownLayout.Node.Outline

/-!
Rendered documents: the top-level nodes in source order and the images met on the way.
-/

namespace MarkdownLayout

structure Rendering where
  nodes : List Node
  images : List PendingImage
  itemSpacing : Scalar
  deriving Repr, Inhabited

namespace Rendering

def root (rendering : Rendering) : Node :=
  .container .vertical rendering.itemSpacing rendering.nodes

def placeholderIn (id : Nat) : Node → Option ImagePlaceholder
  | .image placeholder => if placeholder.id = id then some placeholder else none
  | _ => none

/-- The last placeholder with the number, in walk order. -/
def placeholder? (rendering : Rendering) (id : Nat) : Option ImagePlaceholder :=
  ((Node.walkAll rendering.nodes).filterMap (placeholderIn id)).getLast?

def outline (rendering : Rendering) : String :=
  Node.outlineAllAt 0 rendering.nodes

end Rendering

namespace Builder

/-- The nodes of top-level elements; raw markup at the top level is plain waiting text. -/
def renderElements (builder : Builder) : List Element → Nat → List Node → Progress → List Node × Progress
  | [], _, nodes, progress => progress.flushInto nodes
  | element :: rest, index, nodes, progress =>
    if element.kind = .html then
      let buffer := progress.buffer.append (builder.document.text element) none
      renderElements builder rest (index + 1) nodes { progress with buffer := buffer }
    else
      match builder.build element ⟨none, index⟩ none progress with
      | (none, progress) => renderElements builder rest (index + 1) nodes progress
      | (some node, progress) =>
        let (nodes, progress) := progress.push nodes node
        renderElements builder rest (index + 1) nodes progress

end Builder

namespace Document

def render (document : Document) (profile : Profile) (base : Option Url) : Rendering :=
  let (nodes, progress) :=
    Builder.renderElements { document, profile, base } document.elements 0 [] {}
  { nodes, images := progress.images, itemSpacing := profile.itemSpacing }

end Document

end MarkdownLayout
