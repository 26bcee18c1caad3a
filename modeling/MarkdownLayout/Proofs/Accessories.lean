import MarkdownLayout.Proofs.Glyph

/-!
# What styles put around a node

Composing, list rows and block styles only wrap a node and place ready-made nodes along its edges. Whatever is
gathered from the wrapped node is what was gathered from the node, between the accessories of the style.
-/

namespace MarkdownLayout

namespace EdgeAccessories

def front (accessories : EdgeAccessories) : List Node :=
  accessories.top.toList ++ accessories.left.toList

def back (accessories : EdgeAccessories) : List Node :=
  accessories.right.toList ++ accessories.bottom.toList

end EdgeAccessories

namespace Profile

def blockStyles (profile : Profile) : List BlockStyle :=
  profile.image :: [profile.h1, profile.h2, profile.h3, profile.h4, profile.h5, profile.h6, profile.paragraph,
    profile.quote, profile.codeBlock, profile.list, profile.listItem].map BlockFormat.block

def accessories (profile : Profile) : List Node :=
  profile.blockStyles.flatMap fun style => style.accessories.front ++ style.accessories.back

variable {profile : Profile}

theorem header_block_mem_blockStyles (level : UInt8) :
    (profile.header level).block ∈ profile.blockStyles := by
  unfold header blockStyles
  split <;> simp

/-- Whatever element is styled, its style is one of those of the profile. -/
theorem mem_blockStyles {element : Element} {style : BlockStyle}
    (h : profile.blockStyle? element = some style) : style ∈ profile.blockStyles := by
  unfold blockStyle? blockFormat? at h
  cases hkind : element.kind <;> simp only [hkind, Option.map_some, Option.map_none, Option.some.injEq,
    reduceCtorEq] at h
  case header => exact h ▸ header_block_mem_blockStyles element.level
  all_goals simp [blockStyles, ← h]

def frontOf (profile : Profile) (element : Element) : List Node :=
  ((profile.blockStyle? element).map (·.accessories.front)).getD []

def backOf (profile : Profile) (element : Element) : List Node :=
  ((profile.blockStyle? element).map (·.accessories.back)).getD []

theorem frontOf_append_backOf_subset (profile : Profile) (element : Element) :
    profile.frontOf element ++ profile.backOf element ⊆ profile.accessories := by
  unfold frontOf backOf
  cases hstyle : profile.blockStyle? element with
  | none => simp
  | some style => exact fun node hnode => List.mem_flatMap.2 ⟨style, mem_blockStyles hstyle, hnode⟩

/-- A walk over the accessories of an element meets nothing that the profile does not have. -/
theorem forall_mem_accessories {p : Node → Prop} (h : ∀ node ∈ Node.walkAll profile.accessories, p node)
    (element : Element) : (∀ node ∈ Node.walkAll (profile.frontOf element), p node) ∧
      ∀ node ∈ Node.walkAll (profile.backOf element), p node := by
  simp only [Node.walkAll_eq_flatMap, List.mem_flatMap, forall_exists_index, and_imp] at h ⊢
  have hsub := profile.frontOf_append_backOf_subset element
  exact ⟨fun node outer houter => h node outer (hsub (List.mem_append_left _ houter)),
    fun node outer houter => h node outer (hsub (List.mem_append_right _ houter))⟩

end Profile

section Gather

variable {α : Type} {f : Node → List α}

/-- Accessories stand around a node in the order of their edges: top and left ahead of it, right and bottom behind. -/
theorem EdgeAccessories.gather_wrap (hf : Node.IgnoresWrappers f) (accessories : EdgeAccessories)
    (node : Node) : Node.gather f [accessories.wrap node] =
      Node.gather f accessories.front ++ Node.gather f [node] ++ Node.gather f accessories.back := by
  obtain ⟨top, right, bottom, left⟩ := accessories
  cases top <;> cases right <;> cases bottom <;> cases left <;>
    simp [wrap, Node.stack, Node.row, front, back, Node.gather, Node.walkAll, Node.walk, hf.container]

namespace BlockStyle

theorem gather_wrapAccessories (hf : Node.IgnoresWrappers f) (style : BlockStyle) (node : Node) :
    Node.gather f [style.wrapAccessories node] = Node.gather f style.accessories.front ++
      Node.gather f [node] ++ Node.gather f style.accessories.back := by
  unfold wrapAccessories
  split
  · next h =>
    simp only [EdgeAccessories.isEmpty, Bool.and_eq_true, Option.isNone_iff_eq_none] at h
    simp [EdgeAccessories.front, EdgeAccessories.back, h.1.1.1, h.1.1.2, h.1.2, h.2]
  · exact style.accessories.gather_wrap hf node

/-- Box and margin have nothing of their own, so that only the accessories of a style show. -/
theorem gather_decorate (hf : Node.IgnoresWrappers f) (style : BlockStyle) (node : Node) :
    Node.gather f [style.decorate node] = Node.gather f style.accessories.front ++
      Node.gather f [node] ++ Node.gather f style.accessories.back := by
  rw [← gather_wrapAccessories hf]
  refine decorate_induction (p := fun outer => Node.gather f [outer] = Node.gather f [style.wrapAccessories node])
    rfl fun inner decoration hinner => ?_
  rw [Node.gather_decorated hf, hinner]

end BlockStyle

theorem gather_decorate (hf : Node.IgnoresWrappers f) (node : Node) (style : Option BlockStyle) :
    Node.gather f (decorate (some node) style).toList =
      Node.gather f ((style.map (·.accessories.front)).getD []) ++ Node.gather f [node] ++
        Node.gather f ((style.map (·.accessories.back)).getD []) := by
  cases style with
  | none => simp [decorate]
  | some style => exact style.gather_decorate hf node

namespace Builder

variable {builder : Builder}

theorem gather_compose (hf : Node.IgnoresWrappers f) (nodes : List Node) :
    Node.gather f (compose nodes).toList = Node.gather f nodes := by
  unfold compose
  split
  · rfl
  · rfl
  · rw [Option.toList_some, Node.stack, Node.gather_container hf]

theorem gather_listRow (hf : Node.IgnoresWrappers f) (node : Node) (position : Position)
    (attributes : Option TextAttributes) :
    Node.gather f [builder.listRow node position attributes] =
      Node.gather f [.ofText (marker position) attributes] ++ Node.gather f [node] := by
  rw [listRow, Node.row, Node.gather_container hf, Node.gather_cons]

theorem compose_eq_none_iff {nodes : List Node} : compose nodes = none ↔ nodes = [] := by
  unfold compose
  split <;> simp_all

/-- An element has no node exactly if nothing has been built inside it. -/
theorem closing_eq_none_iff {element : Element} {position : Position}
    {attributes : Option TextAttributes} {nodes : List Node} :
    builder.closing element position attributes nodes = none ↔ nodes = [] := by
  rw [← compose_eq_none_iff, closing]
  unfold decorate
  split <;> simp

/-- The node made of an element's nodes holds what they hold, behind the delimiter of a list item and between
the accessories of the style. -/
theorem gather_closing (hf : Node.IgnoresWrappers f) (builder : Builder) (element : Element) (position : Position)
    (attributes : Option TextAttributes) {nodes : List Node} (hnodes : nodes ≠ []) :
    Node.gather f (builder.closing element position attributes nodes).toList =
      Node.gather f (builder.profile.frontOf element) ++
          (if element.kind = .listItem then Node.gather f [.ofText (marker position) attributes] else []) ++
        Node.gather f nodes ++ Node.gather f (builder.profile.backOf element) := by
  obtain ⟨node, hnode⟩ := Option.ne_none_iff_exists'.1 (fun h => hnodes (compose_eq_none_iff.1 h))
  have hrow : Node.gather f [if element.kind = .listItem then builder.listRow node position attributes
      else node] = (if element.kind = .listItem then Node.gather f [.ofText (marker position) attributes]
        else []) ++ Node.gather f nodes := by
    rw [← gather_compose hf nodes, hnode, Option.toList_some]
    split
    · rw [gather_listRow hf]
    · rw [List.nil_append]
  rw [closing, hnode, Option.map_some, gather_decorate hf, hrow, ← List.append_assoc]
  rfl

end Builder

end Gather

end MarkdownLayout
