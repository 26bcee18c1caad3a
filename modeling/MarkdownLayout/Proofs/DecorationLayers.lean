import MarkdownLayout.Proofs.Accessories

/-!
# The layers of a block style

A style lays its accessories, its box and its margin around a node, one after the other, and each layer could be laid
by a style of its own. No layer touches what it is laid around: a walk of the result meets the accessories along the
top and the left, then the node as it was, then the accessories along the right and the bottom.
-/

namespace MarkdownLayout

namespace Node

def isContent : Node → Bool
  | .text _ | .image _ | .divider _ _ _ => true
  | .container _ _ _ | .decorated _ _ => false

def content (nodes : List Node) : List Node :=
  (walkAll nodes).filter isContent

@[simp] theorem content_nil : content [] = [] :=
  rfl

theorem content_append (nodes more : List Node) : content (nodes ++ more) = content nodes ++ content more := by
  simp [content, walkAll_eq_flatMap]

theorem content_singleton (node : Node) : content [node] = node.walk.filter isContent := by
  simp [content, walkAll]

/-- The outer node has the inner one as a subtree, with this content ahead of it and behind it. -/
def Surrounds (outer inner : Node) (front back : List Node) : Prop :=
  ∃ before after, outer.walk = before ++ inner.walk ++ after ∧
    before.filter isContent = front ∧ after.filter isContent = back

namespace Surrounds

variable {outer inner : Node} {front back : List Node}

theorem refl (node : Node) : Surrounds node node [] [] :=
  ⟨[], [], by simp, rfl, rfl⟩

theorem decorated (h : Surrounds outer inner front back) (decoration : Decoration) :
    Surrounds (.decorated outer decoration) inner front back := by
  obtain ⟨before, after, hwalk, hfront, hback⟩ := h
  refine ⟨.decorated outer decoration :: before, after, ?_, ?_, hback⟩
  · rw [walk, hwalk]
    rfl
  · rw [List.filter_cons_of_neg (by simp [isContent]), hfront]

/-- A stack adds what its other children show. -/
theorem container (h : Surrounds outer inner front back) (axis : Axis) (spacing : Scalar) (ahead behind : List Node) :
    Surrounds (.container axis spacing (ahead ++ outer :: behind)) inner (content ahead ++ front)
      (back ++ content behind) := by
  obtain ⟨before, after, hwalk, rfl, rfl⟩ := h
  refine ⟨.container axis spacing (ahead ++ outer :: behind) :: (walkAll ahead ++ before), after ++ walkAll behind,
    ?_, ?_, ?_⟩
  · simp [walk, walkAll_eq_flatMap, hwalk]
  · rw [List.filter_cons_of_neg (by simp [isContent]), List.filter_append, content]
  · rw [List.filter_append, content]

/-- Around a node the content ahead of it and behind it is all that shows beside its own. -/
theorem content_eq (h : Surrounds outer inner front back) : content [outer] = front ++ content [inner] ++ back := by
  obtain ⟨before, after, hwalk, rfl, rfl⟩ := h
  simp [content_singleton, hwalk]

theorem mem_walk (h : Surrounds outer inner front back) : inner ∈ outer.walk := by
  obtain ⟨before, after, hwalk, -, -⟩ := h
  simp [hwalk, inner.self_mem_walk]

end Surrounds

end Node

/-- The row of the left and right accessories comes first; without them there is nothing to put in a row. -/
theorem EdgeAccessories.surrounds_wrap (accessories : EdgeAccessories) (node : Node) :
    (accessories.wrap node).Surrounds node (Node.content accessories.front) (Node.content accessories.back) := by
  obtain ⟨top, right, bottom, left⟩ := accessories
  have hrow : Node.Surrounds
      (if left.isSome || right.isSome then .row (left.toList ++ node :: right.toList) .zero else node) node
      (Node.content left.toList) (Node.content right.toList) := by
    split
    · simpa [Node.row] using (Node.Surrounds.refl node).container .horizontal .zero left.toList right.toList
    · next hnone =>
      obtain ⟨rfl, rfl⟩ : left = none ∧ right = none := by simpa using hnone
      exact .refl node
  rw [front, back, Node.content_append, Node.content_append]
  exact hrow.container .vertical .zero top.toList bottom.toList

namespace BlockStyle

def onlyAccessories (style : BlockStyle) : BlockStyle :=
  { accessories := style.accessories }

def onlyBox (style : BlockStyle) : BlockStyle :=
  { background := style.background, cornerRadius := style.cornerRadius, border := style.border
    padding := style.padding }

def onlyMargin (style : BlockStyle) : BlockStyle :=
  { margin := style.margin }

/-- A style with accessories alone lays these along the edges of a node, and without any it lays nothing. -/
theorem decorate_onlyAccessories (style : BlockStyle) (node : Node) :
    style.onlyAccessories.decorate node =
      if style.accessories.isEmpty then node else style.accessories.wrap node := by
  have hbox : ¬style.onlyAccessories.hasBox = true := Bool.false_ne_true
  rw [decorate, wrapMargin_of_none rfl, wrapBox_of_not_hasBox hbox]
  rfl

/-- A style with a box alone puts just that box around a node, and none at all if it sets no part of it. -/
theorem decorate_onlyBox (style : BlockStyle) (node : Node) :
    style.onlyBox.decorate node = if style.hasBox then .decorated node style.box else node := by
  rw [decorate, wrapMargin_of_none rfl, wrapAccessories_of_isEmpty rfl]
  rfl

/-- A style with a margin alone puts one wrapper around a node that paints nothing. -/
theorem decorate_onlyMargin (style : BlockStyle) (node : Node) :
    style.onlyMargin.decorate node = style.margin.elim node fun margin =>
      .decorated node { inset := margin, background := none, cornerRadius := none, border := none } := by
  have hbox : ¬style.onlyMargin.hasBox = true := Bool.false_ne_true
  rw [decorate, wrapAccessories_of_isEmpty rfl, wrapBox_of_not_hasBox hbox]
  exact wrapMargin_eq_elim style.onlyMargin node

theorem decorate_eq_layers (style : BlockStyle) (node : Node) :
    style.decorate node = style.onlyMargin.decorate (style.onlyBox.decorate (style.onlyAccessories.decorate node)) := by
  rw [decorate_onlyAccessories, decorate_onlyBox, decorate_onlyMargin, decorate, wrapMargin_eq_elim]
  rfl

/-- Only the innermost layer shows something of its own, and no layer touches the node. -/
theorem surrounds_decorate (style : BlockStyle) (node : Node) :
    (style.decorate node).Surrounds node (Node.content style.accessories.front)
      (Node.content style.accessories.back) := by
  have haccessories : (style.wrapAccessories node).Surrounds node (Node.content style.accessories.front)
      (Node.content style.accessories.back) := by
    unfold wrapAccessories
    split
    · next hempty =>
      simp only [EdgeAccessories.isEmpty, Bool.and_eq_true, Option.isNone_iff_eq_none] at hempty
      obtain ⟨⟨⟨htop, hright⟩, hbottom⟩, hleft⟩ := hempty
      simpa [EdgeAccessories.front, EdgeAccessories.back, htop, hright, hbottom, hleft] using Node.Surrounds.refl node
    · exact style.accessories.surrounds_wrap node
  refine decorate_induction (p := fun outer => outer.Surrounds node _ _) haccessories ?_
  exact fun inner decoration hinner => hinner.decorated decoration

end BlockStyle

/-- Decorating is laying one layer after the other. The node stays as it was, and around it is shown what the
accessories show, in the order of their edges, and nothing else. -/
theorem decorate_layers (node : Node) (style : BlockStyle) :
    decorate (some node) (some style) =
        decorate (decorate (decorate (some node) (some style.onlyAccessories)) (some style.onlyBox))
          (some style.onlyMargin) ∧
      ∃ outer, decorate (some node) (some style) = some outer ∧ node ∈ outer.walk ∧
        outer.Surrounds node
          (Node.content style.accessories.top.toList ++ Node.content style.accessories.left.toList)
          (Node.content style.accessories.right.toList ++ Node.content style.accessories.bottom.toList) ∧
        outer.walk.filter Node.isContent =
          Node.content style.accessories.top.toList ++ Node.content style.accessories.left.toList ++
            node.walk.filter Node.isContent ++
            (Node.content style.accessories.right.toList ++ Node.content style.accessories.bottom.toList) := by
  have hsurrounds := style.surrounds_decorate node
  rw [EdgeAccessories.front, EdgeAccessories.back, Node.content_append, Node.content_append] at hsurrounds
  have hcontent := hsurrounds.content_eq
  rw [Node.content_singleton, Node.content_singleton] at hcontent
  exact ⟨congrArg some (style.decorate_eq_layers node), style.decorate node, rfl, hsurrounds.mem_walk, hsurrounds,
    hcontent⟩

end MarkdownLayout
