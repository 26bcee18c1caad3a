import MarkdownLayout.Proofs.StyledText
import MarkdownLayout.Proofs.WalkLaw

/-!
# The shape of what is rendered

Composing, list rows, styles and flushing each make nodes of one shape, and wrap nothing that is empty. Where styles
place no accessories of their own, all nodes of a rendered document therefore follow one small grammar.
-/

namespace MarkdownLayout

inductive IsDelimiter : String → Prop
  | bullet : IsDelimiter "•"
  | number (place : Nat) (hplace : 1 ≤ place) : IsDelimiter (toString place ++ ".")

/-- Text has a run, none of its runs is empty, and no two neighbours agree. A column has several nodes, without space
between them; a row has a delimiter and one node, set apart by `itemSpacing`. -/
inductive Node.WellFormed (itemSpacing : Scalar) : Node → Prop
  | text (runs : List TextRun) (nonempty : runs ≠ []) (canonical : TextRun.Canonical runs) :
      WellFormed itemSpacing (.text ⟨runs⟩)
  | image (placeholder : ImagePlaceholder) : WellFormed itemSpacing (.image placeholder)
  | divider (width height : Option Scalar) (color : Option Color) :
      WellFormed itemSpacing (.divider width height color)
  | column (children : List Node) (several : 2 ≤ children.length)
      (inside : ∀ child ∈ children, WellFormed itemSpacing child) :
      WellFormed itemSpacing (.container .vertical .zero children)
  | row (delimiter : String) (attributes : Option TextAttributes) (content : Node)
      (hdelimiter : IsDelimiter delimiter) (inside : WellFormed itemSpacing content) :
      WellFormed itemSpacing (.container .horizontal itemSpacing [.ofText delimiter attributes, content])
  | decorated (inner : Node) (decoration : Decoration) (inside : WellFormed itemSpacing inner) :
      WellFormed itemSpacing (.decorated inner decoration)

section WellFormed

variable {itemSpacing : Scalar} {node : Node} {nodes : List Node}

namespace TextBuffer

theorem wellFormed_of_mem_flush {buffer : TextBuffer} (h : TextRun.Canonical buffer.runs) :
    ∀ flushed ∈ buffer.flush, flushed.WellFormed itemSpacing := by
  intro flushed hflushed
  unfold flush at hflushed
  split at hflushed
  · cases hflushed
  · next hnonempty =>
    cases hflushed
    exact .text buffer.runs (by simpa [isEmpty] using hnonempty) h

end TextBuffer

namespace Profile

theorem accessories_isEmpty {profile : Profile} (h : profile.accessories = []) {style : BlockStyle}
    (hstyle : style ∈ profile.blockStyles) : style.accessories.isEmpty = true := by
  have hnone := List.flatMap_eq_nil_iff.1 h style hstyle
  simp only [EdgeAccessories.front, EdgeAccessories.back, List.append_eq_nil_iff, Option.toList_eq_nil_iff] at hnone
  obtain ⟨⟨htop, hleft⟩, hright, hbottom⟩ := hnone
  rw [EdgeAccessories.isEmpty, htop, hleft, hright, hbottom]
  rfl

end Profile

/-- Without accessories a style only lays boxes around a node. -/
theorem BlockStyle.decorate_wellFormed {style : BlockStyle} (hstyle : style.accessories.isEmpty = true)
    (h : node.WellFormed itemSpacing) : (style.decorate node).WellFormed itemSpacing := by
  refine decorate_induction ?_ fun inner decoration hinner => .decorated inner decoration hinner
  rwa [wrapAccessories_of_isEmpty hstyle]

namespace Builder

variable {builder : Builder}

/-- Several nodes make a column, and one stands for itself. -/
theorem wellFormed_of_mem_compose (h : ∀ inner ∈ nodes, inner.WellFormed itemSpacing) :
    ∀ composed ∈ compose nodes, composed.WellFormed itemSpacing := by
  intro composed hcomposed
  match nodes, hcomposed with
  | [_], hsingle =>
    cases hsingle
    exact h composed (List.mem_singleton_self composed)
  | first :: second :: rest, hstack =>
    cases hstack
    exact .column (first :: second :: rest) (by simp) h

theorem isDelimiter_marker (position : Position) : IsDelimiter (marker position) := by
  unfold marker
  split
  · exact .number (position.index + 1) (Nat.le_add_left 1 position.index)
  · exact .bullet

/-- A list item becomes a row, and everything else stays as it was composed. -/
theorem wellFormed_of_mem_closing (haccessories : builder.profile.accessories = []) (element : Element)
    (position : Position) (attributes : Option TextAttributes)
    (h : ∀ inner ∈ nodes, inner.WellFormed builder.profile.itemSpacing) :
    ∀ closed ∈ builder.closing element position attributes nodes, closed.WellFormed builder.profile.itemSpacing := by
  intro closed hclosed
  have hcontent : ∀ content ∈ (compose nodes).map fun node =>
      if element.kind = .listItem then builder.listRow node position attributes else node,
      content.WellFormed builder.profile.itemSpacing := by
    intro content hmem
    obtain ⟨composed, hcomposed, rfl⟩ := Option.map_eq_some_iff.1 hmem
    have hinner := wellFormed_of_mem_compose h composed hcomposed
    split
    · exact .row _ attributes composed (isDelimiter_marker position) hinner
    · exact hinner
  rw [closing] at hclosed
  cases hstyle : builder.profile.blockStyle? element with
  | none =>
    rw [hstyle] at hclosed
    exact hcontent closed hclosed
  | some style =>
    rw [hstyle] at hclosed
    obtain ⟨content, hmem, rfl⟩ := Option.map_eq_some_iff.1 hclosed
    exact BlockStyle.decorate_wellFormed (Profile.accessories_isEmpty haccessories (Profile.mem_blockStyles hstyle))
      (hcontent content hmem)

/-- Steps of a walk make well-formed nodes, as long as the runs that wait are canonical. -/
theorem wellFormed_law (haccessories : builder.profile.accessories = []) :
    builder.WalkLaw (Node.WellFormed builder.profile.itemSpacing) (TextRun.Canonical ·.runs) where
  empty := .nil
  append text attributes h := TextBuffer.canonical_append h text attributes
  trim := TextBuffer.canonical_trimNewline
  flush := TextBuffer.wellFormed_of_mem_flush
  rule := .divider _ _ _
  image := .image
  closing element position attributes _ h := wellFormed_of_mem_closing haccessories element position attributes h

end Builder

end WellFormed

namespace Document

/-- Where styles have no accessories, every node of a rendered document is well formed. -/
theorem render_wellFormed (document : Document) (profile : Profile) (haccessories : profile.accessories = [])
    (base : Option Url) : ∀ node ∈ (document.render profile base).nodes, node.WellFormed profile.itemSpacing :=
  document.render_upholds profile base (Builder.wellFormed_law haccessories)

def ruledList : Document where
  source := "ab"
  elements := [{
    kind := .numberedList
    range := ⟨0, 2⟩
    children := [
      { kind := .listItem, range := ⟨0, 2⟩, children := [
        { kind := .plainRun, range := ⟨0, 1⟩ },
        { kind := .horizontalRule, range := ⟨1, 1⟩ },
        { kind := .strong, range := ⟨1, 2⟩, children := [{ kind := .plainRun, range := ⟨1, 2⟩ }] },
        { kind := .lineBreak, range := ⟨2, 2⟩ }] },
      { kind := .listItem, range := ⟨2, 2⟩, children := [{ kind := .lineBreak, range := ⟨2, 2⟩ }] },
      { kind := .listItem, range := ⟨2, 2⟩, children := [
        { kind := .image, range := ⟨2, 2⟩, href := some "http://a/b" }] }] }]

def unbarred : Profile :=
  { Profile.standard with quote := {} }

/-- A list with a rule and an image among its items. -/
theorem ruledList_wellFormed : unbarred.accessories = [] ∧
    ((Node.walkAll (ruledList.render unbarred none).nodes).filterMap Node.asText).map TextBlock.text =
      ["1.", "a", "b", "3."] ∧
    ∀ node ∈ (ruledList.render unbarred none).nodes, node.WellFormed unbarred.itemSpacing := by
  have haccessories : unbarred.accessories = [] := rfl
  have htexts : ((Node.walkAll (ruledList.render unbarred none).nodes).filterMap Node.asText).map TextBlock.text =
      ["1.", "a", "b", "3."] := by decide
  exact ⟨haccessories, htexts, render_wellFormed ruledList unbarred haccessories none⟩

end Document

end MarkdownLayout
