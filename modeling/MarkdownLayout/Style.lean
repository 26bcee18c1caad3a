import MarkdownLayout.Color
import MarkdownLayout.Scalar.Rounding

/-!
How text and boxes are drawn. Every part has a neutral default.
-/

namespace MarkdownLayout

inductive FontWeight where
  | regular
  | medium
  | bold
  deriving DecidableEq, Repr, Inhabited

structure Font where
  family : String := "Helvetica Neue"
  size : Scalar := .whole 13
  weight : FontWeight := .regular
  italic : Bool := false
  deriving DecidableEq, Repr, Inhabited

structure TextStyle where
  font : Font := {}
  color : Option Color := none
  background : Option Color := none
  strikethrough : Bool := false
  deriving DecidableEq, Repr, Inhabited

structure Insets where
  top : Scalar := .zero
  right : Scalar := .zero
  bottom : Scalar := .zero
  left : Scalar := .zero
  deriving DecidableEq, Repr, Inhabited

structure Border where
  width : Scalar
  color : Color
  deriving DecidableEq, Repr, Inhabited

namespace Font

/-- Fonts agree when they would be drawn alike: sizes are compared as numbers. -/
def agrees (f g : Font) : Bool :=
  f.family == g.family && f.size.agrees g.size && f.weight == g.weight && f.italic == g.italic

end Font

end MarkdownLayout
