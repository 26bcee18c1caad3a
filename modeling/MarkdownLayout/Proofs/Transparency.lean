import MarkdownLayout.Proofs.Concatenation

/-!
# Documents without what is passed over

Elements of unsupported kinds, and images whose destination names nothing, are passed over before anything has been
done for them: the waiting text and the count of images are as they were. Taking such elements out moves the
elements behind them to other places in their parent, but a place is looked at only to number the items of a numbered
list. So a document without them, at any depth but directly in a numbered list, is rendered to the same nodes.
-/

namespace MarkdownLayout

namespace Builder

/-- Some of the elements that are passed over have been taken out, with everything inside them, at any depth. What
stands directly in a numbered list stays, since its place is counted. -/
inductive Pruned (builder : Builder) : Option ElementKind → List Element → List Element → Prop
  | nil (parent : Option ElementKind) : Pruned builder parent [] []
  | drop {parent : Option ElementKind} {element : Element} {rest kept : List Element}
      (hparent : parent ≠ some .numberedList) (hpassed : builder.passesOver element = true)
      (hrest : Pruned builder parent rest kept) : Pruned builder parent (element :: rest) kept
  | keep {parent : Option ElementKind} {element : Element} {children rest kept : List Element}
      (hchildren : Pruned builder (some element.kind) element.children children)
      (hrest : Pruned builder parent rest kept) :
      Pruned builder parent (element :: rest) ({ element with children := children } :: kept)

variable {builder : Builder} {elements : List Element}

/-- An element that is passed over makes no node and changes nothing. -/
theorem build_of_passesOver {element : Element} (h : builder.passesOver element = true) (position : Position)
    (inherited : Option TextAttributes) (progress : Progress) :
    builder.build element position inherited progress = (none, progress) := by
  obtain ⟨kind, range, children, href, alt, level⟩ := element
  rw [build, opening_eq_none_iff.2 h]

theorem kind_of_passesOver {element : Element} (h : builder.passesOver element = true) :
    element.kind.isLeaf = false ∧ element.kind ≠ .html := by
  unfold passesOver at h
  cases hkind : element.kind <;> simp_all [ElementKind.isLeaf, ElementKind.isUnsupported]

theorem closing_congr (element : Element) {position other : Position} (hmarker : marker other = marker position)
    (attributes : Option TextAttributes) (nodes : List Node) :
    builder.closing element other attributes nodes = builder.closing element position attributes nodes := by
  simp only [closing, listRow, hmarker]

/-- An element with other children builds alike if its children do, wherever it stands, unless its marker tells. -/
theorem build_congr {element : Element} {children : List Element} {position other : Position}
    (hmarker : marker other = marker position)
    (hchildren : ∀ attributes nodes progress,
      (builder.withElements elements).buildChildren element.kind attributes children 0 nodes progress =
        builder.buildChildren element.kind attributes element.children 0 nodes progress)
    (inherited : Option TextAttributes) (progress : Progress) :
    (builder.withElements elements).build { element with children := children } other inherited progress =
      builder.build element position inherited progress := by
  obtain ⟨kind, range, inside, href, alt, level⟩ := element
  have hopening : (builder.withElements elements).opening ⟨kind, range, children, href, alt, level⟩ progress =
      builder.opening ⟨kind, range, inside, href, alt, level⟩ progress := rfl
  have hattributes : (builder.withElements elements).attributes ⟨kind, range, children, href, alt, level⟩ inherited =
      builder.attributes ⟨kind, range, inside, href, alt, level⟩ inherited := rfl
  have hclosing : ∀ attributes nodes,
      (builder.withElements elements).closing ⟨kind, range, children, href, alt, level⟩ other attributes nodes =
        builder.closing ⟨kind, range, inside, href, alt, level⟩ position attributes nodes :=
    closing_congr _ hmarker
  rw [build, build, hopening]
  cases builder.opening ⟨kind, range, inside, href, alt, level⟩ progress with
  | none => rfl
  | some opened =>
    dsimp only
    rw [hattributes, hchildren, hclosing]

theorem marker_congr {parent : Option ElementKind} {index other : Nat}
    (h : parent = some .numberedList → other = index) : marker ⟨parent, other⟩ = marker ⟨parent, index⟩ := by
  by_cases hparent : parent = some .numberedList
  · rw [h hparent]
  · unfold marker
    split <;> simp_all

/-- Only the place in a numbered list matters to an item. Elsewhere the elements behind one that is taken out are
built as before. -/
theorem buildChildren_pruned {parent : Option ElementKind} {children kept : List Element}
    (h : builder.Pruned parent children kept) {kind : ElementKind} (hparent : parent = some kind) {index other : Nat}
    (hindex : parent = some .numberedList → other = index) (attributes : Option TextAttributes) (nodes : List Node)
    (progress : Progress) :
    (builder.withElements elements).buildChildren kind attributes kept other nodes progress =
      builder.buildChildren kind attributes children index nodes progress := by
  induction h generalizing kind index other attributes nodes progress with
  | nil => rw [buildChildren, buildChildren]
  | @drop parent element rest kept hcounted hpassed hrest ih =>
    have hleaf := (kind_of_passesOver hpassed).1
    -- the places behind the element are no longer the same, which no list here counts
    rw [buildChildren, hleaf, build_of_passesOver hpassed]
    exact ih hparent (fun heq => absurd heq hcounted) attributes nodes progress
  | @keep parent element inside rest kept hinside hrest ihinside ihrest =>
    have hnext : parent = some .numberedList → other + 1 = index + 1 := fun heq => congrArg (· + 1) (hindex heq)
    rw [buildChildren, buildChildren]
    by_cases hleaf : element.kind.isLeaf = true
    · have hadded : (builder.withElements elements).appendLeaf { element with children := inside } attributes progress =
          builder.appendLeaf element attributes progress := rfl
      rw [if_pos hleaf, if_pos hleaf, hadded]
      exact ihrest hparent hnext attributes nodes _
    · have hmarker : marker ⟨some kind, other⟩ = marker ⟨some kind, index⟩ := marker_congr (hparent ▸ hindex)
      have hbuilt := build_congr hmarker (fun attributes nodes progress =>
        ihinside rfl (fun _ => rfl) attributes nodes progress) attributes progress
      rw [if_neg hleaf, if_neg hleaf, hbuilt]
      split
      · exact ihrest hparent hnext attributes nodes _
      · exact ihrest hparent hnext attributes _ _

/-- At the top level nothing is numbered, and anything passed over may go. -/
theorem renderElements_pruned (elements : List Element) {before kept : List Element}
    (h : builder.Pruned none before kept) (index other : Nat) (nodes : List Node) (progress : Progress) :
    (builder.withElements elements).renderElements kept other nodes progress =
      builder.renderElements before index nodes progress := by
  generalize hparent : none = parent at h
  induction h generalizing index other nodes progress with
  | nil => rw [renderElements, renderElements]
  | @drop parent element rest kept hcounted hpassed hrest ih =>
    have hhtml := (kind_of_passesOver hpassed).2
    rw [renderElements, if_neg hhtml, build_of_passesOver hpassed]
    exact ih (index + 1) other nodes progress hparent
  | @keep parent element inside rest kept hinside hrest _ ihrest =>
    rw [renderElements, renderElements]
    by_cases hhtml : element.kind = .html
    · have htext : (builder.withElements elements).document.text { element with children := inside } =
          builder.document.text element := rfl
      rw [if_pos hhtml, if_pos hhtml, htext]
      exact ihrest _ _ nodes _ hparent
    · have hmarker : marker ⟨none, other⟩ = marker ⟨none, index⟩ := rfl
      have hbuilt : (builder.withElements elements).build { element with children := inside } ⟨none, other⟩ none
          progress = builder.build element ⟨none, index⟩ none progress :=
        build_congr hmarker (fun attributes nodes progress =>
          buildChildren_pruned hinside rfl (fun _ => rfl) attributes nodes progress) none progress
      rw [if_neg hhtml, if_neg hhtml, hbuilt]
      split
      · exact ihrest _ _ nodes _ hparent
      · exact ihrest _ _ _ _ hparent

end Builder

namespace Document

/-- Elements that are passed over can be taken out of a document: the nodes, the images and their numbers stay. -/
theorem render_pruned (document : Document) (profile : Profile) (base : Option Url) (elements : List Element)
    (h : Builder.Pruned { document, profile, base } none document.elements elements) :
    ({ document with elements } : Document).render profile base = document.render profile base := by
  have hwalk := Builder.renderElements_pruned elements h 0 0 [] {}
  unfold render
  rw [← hwalk]
  rfl

def pricedQuote : Document where
  source := "ab"
  elements := [
    { kind := .blockquote, range := ⟨0, 1⟩, children := [
      { kind := .paragraph, range := ⟨0, 1⟩, children := [{ kind := .plainRun, range := ⟨0, 1⟩ }] },
      { kind := .table, range := ⟨0, 1⟩, children := [{ kind := .tableRow, range := ⟨0, 1⟩ }] }] },
    { kind := .numberedList, range := ⟨1, 2⟩, children := [
      { kind := .unknown, range := ⟨1, 1⟩ },
      { kind := .listItem, range := ⟨1, 2⟩, children := [
        { kind := .entity, range := ⟨1, 2⟩ }, { kind := .plainRun, range := ⟨1, 2⟩ }] }] },
    { kind := .image, range := ⟨2, 2⟩, href := some "no place" }]

def plainQuote : List Element := [
  { kind := .blockquote, range := ⟨0, 1⟩, children := [
    { kind := .paragraph, range := ⟨0, 1⟩, children := [{ kind := .plainRun, range := ⟨0, 1⟩ }] }] },
  { kind := .numberedList, range := ⟨1, 2⟩, children := [
    { kind := .unknown, range := ⟨1, 1⟩ },
    { kind := .listItem, range := ⟨1, 2⟩, children := [{ kind := .plainRun, range := ⟨1, 2⟩ }] }] }]

/-- A table, an entity in an item and an image without a destination are taken out. -/
theorem render_pricedQuote :
    Builder.Pruned ⟨pricedQuote, .standard, none⟩ none pricedQuote.elements plainQuote ∧
      ({ pricedQuote with elements := plainQuote } : Document).render .standard none =
        pricedQuote.render .standard none :=
  have h : Builder.Pruned ⟨pricedQuote, .standard, none⟩ none pricedQuote.elements plainQuote :=
    -- the quotation without its table, the list with its second item shortened, and no image
    .keep (.keep (.keep (.nil _) (.nil _)) (.drop (by decide) (by decide) (.nil _)))
      (.keep (.keep (.nil _) (.keep (.drop (by decide) (by decide) (.keep (.nil _) (.nil _))) (.nil _)))
        (.drop (by decide) (by decide) (.nil _)))
  ⟨h, render_pruned pricedQuote .standard none plainQuote h⟩

end Document

end MarkdownLayout
