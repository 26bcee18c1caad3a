import MarkdownLayout.Decorate
import MarkdownLayout.Document
import MarkdownLayout.Profile
import MarkdownLayout.Text.Character
import MarkdownLayout.TextBuffer
import MarkdownLayout.Url.Parser

/-!
Building the node of an element. Inline text goes to a buffer shared by the whole walk; it is flushed before
every child node and at the end of every block.
-/

namespace MarkdownLayout

namespace ElementKind

def isUnsupported : ElementKind → Bool
  | entity | table | tableHeader | tableHeaderCell | tableRow | tableRowCell | unknown => true
  | _ => false

end ElementKind

namespace Profile

def blockFormat? (profile : Profile) (element : Element) : Option BlockFormat :=
  match element.kind with
  | .header => some (profile.header element.level)
  | .paragraph => some profile.paragraph
  | .blockquote => some profile.quote
  | .codeBlock => some profile.codeBlock
  | .listItem => some profile.listItem
  | .bulletedList | .numberedList => some profile.list
  | _ => none

def textStyle? (profile : Profile) (element : Element) : Option TextStyle :=
  match element.kind with
  | .strikethrough => some profile.strikethrough
  | .strong => some profile.bold
  | .em => some profile.italic
  | .codeSpan => some profile.code
  | .link | .mailTo => some profile.hyperlink
  | _ => (profile.blockFormat? element).map BlockFormat.text

def blockStyle? (profile : Profile) (element : Element) : Option BlockStyle :=
  match element.kind with
  | .image => some profile.image
  | _ => (profile.blockFormat? element).map BlockFormat.block

end Profile

structure Position where
  parent : Option ElementKind
  index : Nat
  deriving DecidableEq, Repr, Inhabited

structure Builder where
  document : Document
  profile : Profile
  base : Option Url := none
  deriving Repr, Inhabited

structure Progress where
  buffer : TextBuffer := {}
  images : List PendingImage := []
  deriving DecidableEq, Repr, Inhabited

namespace Progress

def flushInto (progress : Progress) (nodes : List Node) : List Node × Progress :=
  (progress.buffer.flushInto nodes, { progress with buffer := .empty })

def push (progress : Progress) (nodes : List Node) (node : Node) : List Node × Progress :=
  let (nodes, progress) := progress.flushInto nodes
  (nodes ++ [node], progress)

end Progress

namespace Builder

/-- A destination that is empty or holds white space names no image. -/
def resolveImage? (builder : Builder) (element : Element) : Option Url :=
  let href := element.href.getD ""
  if href.isEmpty || href.toList.any Text.isBlank then none
  else Url.resolve? builder.base href

def attributes (builder : Builder) (element : Element) (inherited : Option TextAttributes) :
    Option TextAttributes :=
  let overlaid := match builder.profile.textStyle? element with
    | some style => some (TextAttributes.overlay inherited style)
    | none => inherited
  match element.kind with
  | .strikethrough => overlaid.map fun a => { a with strikethrough := true }
  | .link | .mailTo => overlaid.map fun a => { a with link := element.href }
  | _ => overlaid

/-- A leaf over an empty range is a line break; any other adds the source text under it. -/
def appendLeaf (builder : Builder) (leaf : Element) (attributes : Option TextAttributes)
    (progress : Progress) : Progress :=
  if leaf.range.isEmpty then { progress with buffer := progress.buffer.appendLineBreak }
  else { progress with buffer := progress.buffer.append (builder.document.text leaf) attributes }

/-- The nodes that an element puts before those of its children; nothing when the element is passed over. -/
def opening (builder : Builder) (element : Element) (progress : Progress) : Option (List Node × Progress) :=
  match element.kind with
  | .horizontalRule => some (progress.push [] builder.profile.rule.node)
  | .image =>
    (builder.resolveImage? element).map fun url =>
      let id := progress.images.length
      let (nodes, progress) := progress.push [] (.image ⟨id, url, element.alt⟩)
      (nodes, { progress with images := progress.images ++ [⟨id, url, false⟩] })
  | kind => if kind.isUnsupported then none else some ([], progress)

def compose : List Node → Option Node
  | [] => none
  | [node] => some node
  | nodes => some (.stack nodes)

/-- Items of a numbered list count from one; all others have a bullet. -/
def marker (position : Position) : String :=
  match position.parent with
  | some .numberedList => toString (position.index + 1) ++ "."
  | _ => "•"

def listRow (builder : Builder) (content : Node) (position : Position)
    (attributes : Option TextAttributes) : Node :=
  .row [.ofText (marker position) attributes, content] builder.profile.itemSpacing

def closing (builder : Builder) (element : Element) (position : Position)
    (attributes : Option TextAttributes) (nodes : List Node) : Option Node :=
  let content := (compose nodes).map fun node =>
    if element.kind = .listItem then builder.listRow node position attributes else node
  decorate content (builder.profile.blockStyle? element)

/-- At the end of a block the waiting text loses one final newline and joins the nodes. -/
def flushBoundary (kind : ElementKind) (nodes : List Node) (progress : Progress) : List Node × Progress :=
  if kind.isBoundary then { progress with buffer := progress.buffer.trimNewline.1 }.flushInto nodes
  else (nodes, progress)

mutual

def build (builder : Builder) : Element → Position → Option TextAttributes → Progress →
    Option Node × Progress
  | ⟨kind, range, children, href, alt, level⟩, position, inherited, progress =>
    let element : Element := ⟨kind, range, children, href, alt, level⟩
    match builder.opening element progress with
    | none => (none, progress)
    | some (nodes, progress) =>
      let attributes := builder.attributes element inherited
      let (nodes, progress) := buildChildren builder kind attributes children 0 nodes progress
      let (nodes, progress) := flushBoundary kind nodes progress
      (builder.closing element position attributes nodes, progress)

def buildChildren (builder : Builder) (parent : ElementKind) (attributes : Option TextAttributes) :
    List Element → Nat → List Node → Progress → List Node × Progress
  | [], _, nodes, progress => (nodes, progress)
  | child :: rest, index, nodes, progress =>
    if child.kind.isLeaf then
      buildChildren builder parent attributes rest (index + 1) nodes
        (builder.appendLeaf child attributes progress)
    else
      match build builder child ⟨some parent, index⟩ attributes progress with
      | (none, progress) => buildChildren builder parent attributes rest (index + 1) nodes progress
      | (some node, progress) =>
        let (nodes, progress) := progress.push nodes node
        buildChildren builder parent attributes rest (index + 1) nodes progress

end

end Builder

end MarkdownLayout
