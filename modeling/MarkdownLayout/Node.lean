import MarkdownLayout.Style
import MarkdownLayout.Url

/-!
Layout nodes: blocks of styled text, images, dividers, stacks of nodes, and boxes around a node. A node is
never changed once built; styling wraps it.
-/

namespace MarkdownLayout

structure TextAttributes where
  font : Font
  color : Option Color := none
  background : Option Color := none
  strikethrough : Bool := false
  link : Option String := none
  deriving DecidableEq, Repr, Inhabited

/-- Text without attributes is drawn plainly: line breaks and raw markup. -/
structure TextRun where
  text : String
  attributes : Option TextAttributes := none
  deriving DecidableEq, Repr, Inhabited

structure TextBlock where
  runs : List TextRun
  deriving DecidableEq, Repr, Inhabited

structure ImagePlaceholder where
  id : Nat
  url : Url
  alt : Option String
  deriving DecidableEq, Repr, Inhabited

/-- An image found while rendering; it is loaded once it has been reported, be it as failed. -/
structure PendingImage where
  id : Nat
  url : Url
  loaded : Bool := false
  deriving DecidableEq, Repr, Inhabited

inductive Axis where
  | vertical
  | horizontal
  deriving DecidableEq, Repr, Inhabited

structure Decoration where
  inset : Insets := {}
  background : Option Color := none
  cornerRadius : Option Scalar := none
  border : Option Border := none
  deriving DecidableEq, Repr, Inhabited

inductive Node where
  | text (block : TextBlock)
  | image (placeholder : ImagePlaceholder)
  | container (axis : Axis) (spacing : Scalar) (children : List Node)
  | decorated (inner : Node) (decoration : Decoration)
  | divider (width height : Option Scalar) (color : Option Color)
  deriving Repr, Inhabited

namespace TextAttributes

def ofStyle (style : TextStyle) : TextAttributes :=
  { font := style.font, color := style.color, background := style.background
    strikethrough := style.strikethrough, link := none }

/-- A style over inherited attributes: the font is replaced, colours only where the style sets them;
strikethrough and link carry through. -/
def overlay (inherited : Option TextAttributes) (style : TextStyle) : TextAttributes :=
  match inherited with
  | none => ofStyle style
  | some base =>
    { font := style.font
      color := style.color.or base.color
      background := style.background.or base.background
      strikethrough := style.strikethrough || base.strikethrough
      link := base.link }

def agrees (a b : TextAttributes) : Bool :=
  a.font.agrees b.font && a.color == b.color && a.background == b.background &&
    a.strikethrough == b.strikethrough && a.link == b.link

end TextAttributes

namespace TextRun

def attributesAgree : Option TextAttributes → Option TextAttributes → Bool
  | none, none => true
  | some a, some b => a.agrees b
  | _, _ => false

end TextRun

namespace TextBlock

def text (block : TextBlock) : String :=
  String.join (block.runs.map TextRun.text)

def linkIn : List TextRun → Nat → Option String
  | [], _ => none
  | run :: rest, offset =>
    if offset < run.text.utf8ByteSize then run.attributes.bind TextAttributes.link
    else linkIn rest (offset - run.text.utf8ByteSize)

def linkAt (block : TextBlock) (offset : Nat) : Option String :=
  linkIn block.runs offset

end TextBlock

namespace Node

def ofText (text : String) (attributes : Option TextAttributes) : Node :=
  .text ⟨[⟨text, attributes⟩]⟩

def stack (children : List Node) : Node :=
  .container .vertical .zero children

def row (children : List Node) (spacing : Scalar) : Node :=
  .container .horizontal spacing children

def asText : Node → Option TextBlock
  | text block => some block
  | _ => none

mutual

def walk : Node → List Node
  | .text block => [.text block]
  | .image placeholder => [.image placeholder]
  | .container axis spacing children => .container axis spacing children :: walkAll children
  | .decorated inner decoration => .decorated inner decoration :: inner.walk
  | .divider width height color => [.divider width height color]

def walkAll : List Node → List Node
  | [] => []
  | node :: rest => node.walk ++ walkAll rest

end

theorem self_mem_walk (node : Node) : node ∈ node.walk := by
  cases node <;> simp [walk]

theorem walkAll_eq_flatMap (nodes : List Node) : walkAll nodes = nodes.flatMap walk := by
  induction nodes with
  | nil => simp [walkAll]
  | cons node rest ih => simp [walkAll, ih]

end Node

end MarkdownLayout
