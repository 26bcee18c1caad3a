import MarkdownLayout.Node

/-!
The style of a block: its box, the margin around the box, and nodes placed along its edges.
-/

namespace MarkdownLayout

structure EdgeAccessories where
  top : Option Node := none
  right : Option Node := none
  bottom : Option Node := none
  left : Option Node := none
  deriving Repr, Inhabited

structure BlockStyle where
  background : Option Color := none
  cornerRadius : Option Scalar := none
  border : Option Border := none
  margin : Option Insets := none
  padding : Option Insets := none
  accessories : EdgeAccessories := {}
  deriving Repr, Inhabited

namespace EdgeAccessories

def isEmpty (a : EdgeAccessories) : Bool :=
  a.top.isNone && a.right.isNone && a.bottom.isNone && a.left.isNone

end EdgeAccessories

namespace BlockStyle

def hasBox (style : BlockStyle) : Bool :=
  style.padding.isSome || style.background.isSome || style.cornerRadius.isSome || style.border.isSome

end BlockStyle

end MarkdownLayout
