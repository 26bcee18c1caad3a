import MarkdownLayout.Style.Block

/-!
Wrapping a node in the layers of a block style, innermost first: accessories along the edges, then the padded
and painted box, then the margin. The margin is a wrapper of its own, so the background never reaches into it.
-/

namespace MarkdownLayout

/-- The node with its accessories: left and right ones in a row with it, top and bottom ones in a column with
that row. -/
def EdgeAccessories.wrap (accessories : EdgeAccessories) (node : Node) : Node :=
  let middle :=
    if accessories.left.isSome || accessories.right.isSome then
      Node.row (accessories.left.toList ++ node :: accessories.right.toList) .zero
    else node
  Node.stack (accessories.top.toList ++ middle :: accessories.bottom.toList)

namespace BlockStyle

def box (style : BlockStyle) : Decoration :=
  { inset := style.padding.getD {}
    background := style.background
    cornerRadius := style.cornerRadius
    border := style.border }

def wrapAccessories (style : BlockStyle) (node : Node) : Node :=
  if style.accessories.isEmpty then node else style.accessories.wrap node

def wrapBox (style : BlockStyle) (node : Node) : Node :=
  if style.hasBox then .decorated node style.box else node

def wrapMargin (style : BlockStyle) (node : Node) : Node :=
  match style.margin with
  | some margin => .decorated node { inset := margin }
  | none => node

def decorate (style : BlockStyle) (node : Node) : Node :=
  style.wrapMargin (style.wrapBox (style.wrapAccessories node))

variable {style : BlockStyle}

theorem wrapAccessories_of_isEmpty (h : style.accessories.isEmpty = true) (node : Node) :
    style.wrapAccessories node = node :=
  if_pos h

theorem wrapBox_of_hasBox (h : style.hasBox = true) (node : Node) :
    style.wrapBox node = .decorated node style.box :=
  if_pos h

theorem wrapBox_of_not_hasBox (h : ¬style.hasBox = true) (node : Node) : style.wrapBox node = node :=
  if_neg h

/-- A style puts its box around a node exactly if it sets some part of the box. -/
theorem wrapBox_eq_decorated_iff {node : Node} : style.wrapBox node = .decorated node style.box ↔ style.hasBox := by
  refine ⟨fun h => Decidable.by_contra fun hnone => ?_, fun h => wrapBox_of_hasBox h node⟩
  rw [wrapBox_of_not_hasBox hnone] at h
  have hsize := congrArg sizeOf h
  simp at hsize
  omega

/-- The margin only keeps other things away: nothing is painted in it. -/
theorem wrapMargin_of_some {margin : Insets} (h : style.margin = some margin) (node : Node) :
    style.wrapMargin node =
      .decorated node { inset := margin, background := none, cornerRadius := none, border := none } := by
  rw [wrapMargin, h]

theorem wrapMargin_of_none (h : style.margin = none) (node : Node) : style.wrapMargin node = node := by
  rw [wrapMargin, h]

theorem wrapMargin_eq_elim (style : BlockStyle) (node : Node) :
    style.wrapMargin node = style.margin.elim node fun margin =>
      .decorated node { inset := margin, background := none, cornerRadius := none, border := none } := by
  cases h : style.margin with
  | some margin => exact wrapMargin_of_some h node
  | none => exact wrapMargin_of_none h node

/-- What holds of a node with its accessories, and still holds with a box around it, holds with all layers. -/
theorem decorate_induction {p : Node → Prop} {node : Node} (haccessories : p (style.wrapAccessories node))
    (hdecorated : ∀ inner decoration, p inner → p (.decorated inner decoration)) : p (style.decorate node) := by
  have hbox : p (style.wrapBox (style.wrapAccessories node)) := by
    by_cases h : style.hasBox
    · rw [wrapBox_of_hasBox h]
      exact hdecorated _ _ haccessories
    · rwa [wrapBox_of_not_hasBox h]
  unfold decorate
  cases h : style.margin with
  | some margin =>
    rw [wrapMargin_of_some h]
    exact hdecorated _ _ hbox
  | none => rwa [wrapMargin_of_none h]

end BlockStyle

def decorate (node : Option Node) (style : Option BlockStyle) : Option Node :=
  match style with
  | some style => node.map style.decorate
  | none => node

end MarkdownLayout
