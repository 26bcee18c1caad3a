import MarkdownLayout.Proofs.ImageNumbering
import MarkdownLayout.Proofs.InlineText

/-!
# Documents one behind the other

A walk looks at what came before it in two ways only: it numbers its images on from those registered, and it goes on
with the text that waits. A block leaves no text behind. So whatever follows a block is rendered as it is on its own,
with the numbers of its images raised.
-/

namespace MarkdownLayout

namespace Node

mutual

def renumbered (offset : Nat) : Node → Node
  | .text block => .text block
  | .image placeholder => .image { placeholder with id := placeholder.id + offset }
  | .container axis spacing children => .container axis spacing (renumberedAll offset children)
  | .decorated inner decoration => .decorated (inner.renumbered offset) decoration
  | .divider width height color => .divider width height color

def renumberedAll (offset : Nat) : List Node → List Node
  | [] => []
  | node :: rest => node.renumbered offset :: renumberedAll offset rest

end

theorem renumberedAll_eq_map (offset : Nat) (nodes : List Node) :
    renumberedAll offset nodes = nodes.map (renumbered offset) := by
  induction nodes with
  | nil => rw [renumberedAll, List.map_nil]
  | cons node rest ih => rw [renumberedAll, ih, List.map_cons]

mutual

theorem renumbered_zero : ∀ node : Node, node.renumbered 0 = node
  | .text _ | .image _ | .divider .. => rfl
  | .container axis spacing children => by rw [renumbered, renumberedAll_zero children]
  | .decorated inner decoration => by rw [renumbered, renumbered_zero inner]

theorem renumberedAll_zero : ∀ nodes : List Node, renumberedAll 0 nodes = nodes
  | [] => rfl
  | node :: rest => by rw [renumberedAll, renumbered_zero node, renumberedAll_zero rest]

end

mutual

/-- Without images there is nothing to renumber. -/
theorem renumbered_eq_self (offset : Nat) :
    ∀ node : Node, (∀ inner ∈ node.walk, inner.asImage = none) → node.renumbered offset = node
  | .text _, _ | .divider .., _ => rfl
  | .image placeholder, h => by
    have himage := h (.image placeholder) (List.mem_singleton.2 rfl)
    cases himage
  | .container axis spacing children, h => by
    rw [renumbered, renumberedAll_eq_self offset children fun inner hinner => h inner (List.mem_cons_of_mem _ hinner)]
  | .decorated inner decoration, h => by
    rw [renumbered, renumbered_eq_self offset inner fun deeper hdeeper => h deeper (List.mem_cons_of_mem _ hdeeper)]

theorem renumberedAll_eq_self (offset : Nat) :
    ∀ nodes : List Node, (∀ inner ∈ walkAll nodes, inner.asImage = none) → renumberedAll offset nodes = nodes
  | [], _ => rfl
  | node :: rest, h => by
    rw [renumberedAll, renumbered_eq_self offset node fun inner hinner => h inner (List.mem_append_left _ hinner),
      renumberedAll_eq_self offset rest fun inner hinner => h inner (List.mem_append_right _ hinner)]

end

end Node

def PendingImage.renumbered (offset : Nat) (image : PendingImage) : PendingImage :=
  { image with id := image.id + offset }

/-! ## Wrapping what is renumbered -/

/-- Accessories without images have no numbers to raise. -/
theorem EdgeAccessories.wrap_renumbered {accessories : EdgeAccessories} {offset : Nat}
    (h : (accessories.front ++ accessories.back).map (Node.renumbered offset) = accessories.front ++ accessories.back)
    (node : Node) : accessories.wrap (node.renumbered offset) = (accessories.wrap node).renumbered offset := by
  obtain ⟨top, right, bottom, left⟩ := accessories
  cases top <;> cases right <;> cases bottom <;> cases left <;>
    simp_all [wrap, front, back, Node.stack, Node.row, Node.renumbered, Node.renumberedAll_eq_map]

namespace BlockStyle

variable {offset : Nat}

theorem decorate_renumbered (style : BlockStyle)
    (h : (style.accessories.front ++ style.accessories.back).map (Node.renumbered offset) =
      style.accessories.front ++ style.accessories.back) (node : Node) :
    style.decorate (node.renumbered offset) = (style.decorate node).renumbered offset := by
  have haccessories : style.wrapAccessories (node.renumbered offset) =
      (style.wrapAccessories node).renumbered offset := by
    unfold wrapAccessories
    split
    · rfl
    · exact EdgeAccessories.wrap_renumbered h node
  have hbox (inner : Node) : style.wrapBox (inner.renumbered offset) = (style.wrapBox inner).renumbered offset := by
    unfold wrapBox
    split
    · rw [Node.renumbered]
    · rfl
  have hmargin (inner : Node) :
      style.wrapMargin (inner.renumbered offset) = (style.wrapMargin inner).renumbered offset := by
    unfold wrapMargin
    split
    · rw [Node.renumbered]
    · rfl
  rw [decorate, decorate, haccessories, hbox, hmargin]

end BlockStyle

theorem Profile.map_renumbered_accessories {profile : Profile} {element : Element} {style : BlockStyle}
    (h : ∀ node ∈ Node.walkAll profile.accessories, node.asImage = none)
    (hstyle : profile.blockStyle? element = some style) (offset : Nat) :
    (style.accessories.front ++ style.accessories.back).map (Node.renumbered offset) =
      style.accessories.front ++ style.accessories.back := by
  obtain ⟨hfront, hback⟩ := forall_mem_accessories h element
  have hfrontOf : profile.frontOf element = style.accessories.front := by simp [frontOf, hstyle]
  have hbackOf : profile.backOf element = style.accessories.back := by simp [backOf, hstyle]
  rw [hfrontOf] at hfront
  rw [hbackOf] at hback
  rw [List.map_append, ← Node.renumberedAll_eq_map, ← Node.renumberedAll_eq_map,
    Node.renumberedAll_eq_self offset _ hfront, Node.renumberedAll_eq_self offset _ hback]

/-! ## A walk behind another one -/

def Progress.behind (before : List PendingImage) (progress : Progress) : Progress :=
  ⟨progress.buffer, before ++ progress.images.map (PendingImage.renumbered before.length)⟩

def walkBehind (front : List Node) (before : List PendingImage) (walked : List Node × Progress) :
    List Node × Progress :=
  (front ++ walked.1.map (Node.renumbered before.length), walked.2.behind before)

section Behind

variable (front nodes : List Node) (before : List PendingImage) (progress : Progress)

theorem walkBehind_nil (walked : List Node × Progress) : walkBehind [] [] walked = walked := by
  have hnodes : walked.1.map (Node.renumbered 0) = walked.1 := by
    rw [← Node.renumberedAll_eq_map, Node.renumberedAll_zero]
  have himages : walked.2.images.map (PendingImage.renumbered 0) = walked.2.images := List.map_id' ..
  rw [walkBehind, Progress.behind, List.length_nil, hnodes, himages]
  rfl

theorem TextBuffer.map_renumbered_flush (buffer : TextBuffer) (offset : Nat) :
    buffer.flush.toList.map (Node.renumbered offset) = buffer.flush.toList := by
  unfold flush
  split <;> rfl

/-- Flushing goes on in the same way behind other nodes and images. -/
theorem flushInto_behind : (progress.behind before).flushInto (front ++ nodes.map (Node.renumbered before.length)) =
    walkBehind front before (progress.flushInto nodes) := by
  rw [Progress.flushInto, Progress.flushInto, TextBuffer.flushInto, walkBehind, TextBuffer.flushInto, List.map_append,
    TextBuffer.map_renumbered_flush, List.append_assoc]
  rfl

theorem push_behind (node : Node) :
    (progress.behind before).push (front ++ nodes.map (Node.renumbered before.length))
      (node.renumbered before.length) = walkBehind front before (progress.push nodes node) := by
  rw [Progress.push, Progress.push, flushInto_behind]
  simp [walkBehind]

theorem flushBoundary_behind (kind : ElementKind) :
    Builder.flushBoundary kind (front ++ nodes.map (Node.renumbered before.length)) (progress.behind before) =
      walkBehind front before (Builder.flushBoundary kind nodes progress) := by
  unfold Builder.flushBoundary
  split
  · exact flushInto_behind front nodes before { progress with buffer := progress.buffer.trimNewline.1 }
  · rfl

theorem take_behind (built : Option Node) :
    (built.map (Node.renumbered before.length)).elim
        (front ++ nodes.map (Node.renumbered before.length), progress.behind before)
        ((progress.behind before).push (front ++ nodes.map (Node.renumbered before.length))) =
      walkBehind front before (built.elim (nodes, progress) (progress.push nodes)) := by
  cases built with
  | none => rfl
  | some node => exact push_behind front nodes before progress node

end Behind

namespace Builder

variable {builder : Builder}

def withElements (builder : Builder) (elements : List Element) : Builder :=
  { builder with document := { builder.document with elements } }

@[simp]
theorem profile_withElements (builder : Builder) (elements : List Element) :
    (builder.withElements elements).profile = builder.profile := rfl

@[simp]
theorem attributes_withElements (builder : Builder) (elements : List Element) :
    (builder.withElements elements).attributes = builder.attributes := rfl

@[simp]
theorem listRow_withElements (builder : Builder) (elements : List Element) :
    (builder.withElements elements).listRow = builder.listRow := rfl

/-- An image behind others gets a number raised by their count. -/
theorem opening_behind (element : Element) (progress : Progress) (before : List PendingImage)
    (elements : List Element) : (builder.withElements elements).opening element (progress.behind before) =
      (builder.opening element progress).map (walkBehind [] before) := by
  unfold opening
  split
  · exact congrArg some (push_behind [] [] before progress builder.profile.rule.node)
  · have hresolve : (builder.withElements elements).resolveImage? element = builder.resolveImage? element := rfl
    rw [hresolve, Option.map_map]
    refine congrArg (Option.map · _) (funext fun url => ?_)
    have hid : (progress.behind before).images.length = progress.images.length + before.length := by
      rw [Progress.behind, List.length_append, List.length_map, Nat.add_comm]
    have hpush : (progress.behind before).push [] (.image ⟨(progress.behind before).images.length, url, element.alt⟩) =
        walkBehind [] before (progress.push [] (.image ⟨progress.images.length, url, element.alt⟩)) := by
      rw [hid]
      exact push_behind [] [] before progress (.image ⟨progress.images.length, url, element.alt⟩)
    dsimp only [Function.comp_apply]
    rw [hpush, hid]
    simp [walkBehind, Progress.behind, PendingImage.renumbered]
  · split <;> rfl

theorem appendLeaf_behind (leaf : Element) (attributes : Option TextAttributes) (progress : Progress)
    (before : List PendingImage) (elements : List Element) :
    (builder.withElements elements).appendLeaf leaf attributes (progress.behind before) =
      (builder.appendLeaf leaf attributes progress).behind before := by
  unfold appendLeaf
  split <;> rfl

theorem compose_renumbered (nodes : List Node) (offset : Nat) :
    compose (nodes.map (Node.renumbered offset)) = (compose nodes).map (Node.renumbered offset) := by
  match nodes with
  | [] | [_] => rfl
  | first :: second :: rest =>
    simp only [compose, List.map_cons, Option.map_some, Node.stack, Node.renumbered, Node.renumberedAll_eq_map]

/-- Closing an element does not touch the numbers inside it. -/
theorem closing_behind (haccessories : ∀ node ∈ Node.walkAll builder.profile.accessories, node.asImage = none)
    (element : Element) {position other : Position} (hmarker : marker other = marker position)
    (attributes : Option TextAttributes) (nodes : List Node) (offset : Nat) (elements : List Element) :
    (builder.withElements elements).closing element other attributes (nodes.map (Node.renumbered offset)) =
      (builder.closing element position attributes nodes).map (Node.renumbered offset) := by
  have hcontent (node : Node) :
      (if element.kind = .listItem then builder.listRow (node.renumbered offset) other attributes
        else node.renumbered offset) =
      (if element.kind = .listItem then builder.listRow node position attributes else node).renumbered offset := by
    split
    · simp [listRow, hmarker, Node.row, Node.ofText, Node.renumbered, Node.renumberedAll_eq_map]
    · rfl
  rw [closing, closing, compose_renumbered, profile_withElements, listRow_withElements]
  unfold decorate
  cases hstyle : builder.profile.blockStyle? element with
  | none => cases compose nodes <;> simp [hcontent]
  | some style =>
    have hstays := Profile.map_renumbered_accessories haccessories hstyle offset
    cases compose nodes <;> simp [hcontent, style.decorate_renumbered hstays]

mutual

/-- Behind other nodes and images an element gives the same node and the same text, with its images renumbered. -/
theorem build_behind (builder : Builder)
    (haccessories : ∀ node ∈ Node.walkAll builder.profile.accessories, node.asImage = none)
    (before : List PendingImage) (elements : List Element) :
    ∀ (element : Element) (position other : Position) (inherited : Option TextAttributes) (progress : Progress),
      marker other = marker position →
      (builder.withElements elements).build element other inherited (progress.behind before) =
        ((builder.build element position inherited progress).1.map (Node.renumbered before.length),
          (builder.build element position inherited progress).2.behind before)
  | ⟨kind, range, children, href, alt, level⟩, position, other, inherited, progress, hmarker => by
    rw [build, build, opening_behind]
    cases builder.opening ⟨kind, range, children, href, alt, level⟩ progress with
    | none => rfl
    | some opened =>
      obtain ⟨nodes, after⟩ := opened
      have hchildren := buildChildren_behind builder haccessories before elements kind
        (builder.attributes ⟨kind, range, children, href, alt, level⟩ inherited) children 0 [] nodes after
      dsimp only [Option.map_some, walkBehind]
      rw [attributes_withElements, hchildren, walkBehind]
      dsimp only
      rw [flushBoundary_behind, walkBehind]
      exact congrArg (·, _) (closing_behind haccessories _ hmarker _ _ _ elements)

theorem buildChildren_behind (builder : Builder)
    (haccessories : ∀ node ∈ Node.walkAll builder.profile.accessories, node.asImage = none)
    (before : List PendingImage) (elements : List Element) (parent : ElementKind)
    (attributes : Option TextAttributes) :
    ∀ (children : List Element) (index : Nat) (front nodes : List Node) (progress : Progress),
      (builder.withElements elements).buildChildren parent attributes children index
          (front ++ nodes.map (Node.renumbered before.length)) (progress.behind before) =
        walkBehind front before (builder.buildChildren parent attributes children index nodes progress)
  | [], _, _, _, _ => by
    rw [buildChildren, buildChildren, walkBehind]
  | child :: rest, index, front, nodes, progress => by
    rw [buildChildren_cons, buildChildren_cons]
    split
    · rw [appendLeaf_behind]
      exact buildChildren_behind builder haccessories before elements parent attributes rest (index + 1) front nodes _
    · have hchild := build_behind builder haccessories before elements child ⟨some parent, index⟩
        ⟨some parent, index⟩ attributes progress rfl
      dsimp only
      rw [hchild, take_behind]
      exact buildChildren_behind builder haccessories before elements parent attributes rest (index + 1) front _ _

end

/-- A document walked behind another one gives its own nodes with raised numbers. -/
theorem renderElements_behind (builder : Builder)
    (haccessories : ∀ node ∈ Node.walkAll builder.profile.accessories, node.asImage = none)
    (before : List PendingImage) (elements rendered : List Element) (index other : Nat) (front nodes : List Node)
    (progress : Progress) :
    (builder.withElements elements).renderElements rendered other (front ++ nodes.map (Node.renumbered before.length))
        (progress.behind before) =
      walkBehind front before (builder.renderElements rendered index nodes progress) := by
  induction rendered generalizing index other nodes progress with
  | nil =>
    rw [renderElements, renderElements]
    exact flushInto_behind front nodes before progress
  | cons element rest ih =>
    rw [renderElements_cons, renderElements_cons]
    split
    · exact ih (index + 1) (other + 1) nodes
        { progress with buffer := progress.buffer.append (builder.document.text element) none }
    · -- the marker does not depend on where an element stands at the top level
      have hbuilt := build_behind builder haccessories before elements element ⟨none, index⟩ ⟨none, other⟩ none
        progress rfl
      dsimp only
      rw [hbuilt, take_behind]
      exact ih (index + 1) (other + 1) _ _

/-! ## The seam behind a block -/

/-- A block leaves nothing waiting, so that what follows starts afresh. -/
theorem buffer_build_of_isBoundary (builder : Builder) {element : Element} (h : element.kind.isBoundary = true)
    (position : Position) (inherited : Option TextAttributes) (progress : Progress) :
    (builder.build element position inherited progress).2.buffer = .empty := by
  rw [builder.build_of_isBoundary h]

/-- What follows a block goes on with its nodes and images only. -/
theorem renderElements_append (builder : Builder) {front : List Element} {last : Element}
    (hlast : front.getLast? = some last) (hboundary : last.kind.isBoundary = true) (back : List Element) (index : Nat)
    (nodes : List Node) (progress : Progress) :
    (builder.renderElements front index nodes progress).2.buffer = .empty ∧
      builder.renderElements (front ++ back) index nodes progress =
        builder.renderElements back (index + front.length) (builder.renderElements front index nodes progress).1
          (builder.renderElements front index nodes progress).2 := by
  induction front generalizing index nodes progress with
  | nil => cases hlast
  | cons element rest ih =>
    rw [List.cons_append, renderElements_cons, renderElements_cons]
    cases rest with
    | nil =>
      obtain rfl : element = last := by simpa using hlast
      have hhtml : element.kind ≠ .html := ElementKind.ne_of_isBoundary hboundary rfl
      have hbuffer := buffer_build_of_isBoundary builder hboundary ⟨none, index⟩ none progress
      rw [if_neg hhtml, if_neg hhtml]
      dsimp only
      generalize builder.build element ⟨none, index⟩ none progress = built at hbuffer ⊢
      obtain ⟨node, ⟨buffer, images⟩⟩ := built
      obtain rfl : buffer = .empty := hbuffer
      cases node <;> simp [renderElements]
    | cons second more =>
      have hrest : (second :: more).getLast? = some last := by simpa using hlast
      have hplace : index + (element :: second :: more).length = index + 1 + (second :: more).length := by
        simp only [List.length_cons]
        omega
      rw [hplace]
      split
      · exact ih hrest (index + 1) _ _
      · exact ih hrest (index + 1) _ _

end Builder

namespace Document

/-- A document that ends with a block and another one behind it are rendered one after the other: the images of the
second are numbered on from those of the first. -/
theorem render_append (source : String) {front : List Element} {last : Element} (hlast : front.getLast? = some last)
    (hboundary : last.kind.isBoundary = true) (back : List Element) (profile : Profile)
    (haccessories : ∀ node ∈ Node.walkAll profile.accessories, node.asImage = none) (base : Option Url) :
    let first := render ⟨source, front⟩ profile base
    let second := render ⟨source, back⟩ profile base
    let both := render ⟨source, front ++ back⟩ profile base
    both.nodes = first.nodes ++ second.nodes.map (Node.renumbered first.images.length) ∧
      both.images = first.images ++ second.images.map (PendingImage.renumbered first.images.length) := by
  intro first second both
  let whole : Builder := { document := ⟨source, front ++ back⟩, profile, base }
  let former : Builder := { document := ⟨source, front⟩, profile, base }
  let latter : Builder := { document := ⟨source, back⟩, profile, base }
  let alone := former.renderElements front 0 [] {}
  let after := latter.renderElements back 0 [] {}
  have hfirst : whole.renderElements front 0 [] {} = alone :=
    (former.renderElements_behind haccessories [] (front ++ back) front 0 0 [] [] {}).trans (walkBehind_nil alone)
  have hsecond : whole.renderElements back front.length (first.nodes ++ []) (Progress.behind first.images {}) =
      walkBehind first.nodes first.images after :=
    latter.renderElements_behind haccessories first.images (front ++ back) back 0 front.length first.nodes [] {}
  obtain ⟨hbuffer, hboth⟩ := whole.renderElements_append hlast hboundary back 0 [] {}
  rw [hfirst] at hbuffer hboth
  have hseam : alone.2 = Progress.behind first.images {} := by
    have hempty : alone.2 = ⟨.empty, first.images⟩ := congrArg (Progress.mk · first.images) hbuffer
    rw [hempty, Progress.behind, List.map_nil, List.append_nil]
    rfl
  rw [Nat.zero_add, hseam] at hboth
  rw [List.append_nil] at hsecond
  have hrendered : whole.renderElements (front ++ back) 0 [] {} = walkBehind first.nodes first.images after :=
    hboth.trans hsecond
  exact ⟨congrArg Prod.fst hrendered, congrArg (fun walked => walked.2.images) hrendered⟩

def albumText : Element where
  kind := .paragraph
  range := ⟨0, 4⟩
  children := [{ kind := .plainRun, range := ⟨0, 4⟩ }, { kind := .image, range := ⟨0, 4⟩, href := some "http://a/c" }]

def album : List Element :=
  [{ kind := .image, range := ⟨0, 4⟩, href := some "http://a/b" }, albumText]

def albumSequel : List Element := [
  { kind := .html, range := ⟨0, 4⟩ },
  { kind := .blockquote
    range := ⟨0, 4⟩
    children := [{ kind := .image, range := ⟨0, 4⟩, href := some "http://a/d" }] }]

/-- An album and its sequel, whose image counts on. -/
theorem render_album : album.getLast? = some albumText ∧ albumText.kind.isBoundary = true ∧
    (∀ node ∈ Node.walkAll Profile.standard.accessories, node.asImage = none) ∧
    let first := render ⟨"text", album⟩ .standard none
    let second := render ⟨"text", albumSequel⟩ .standard none
    let both := render ⟨"text", album ++ albumSequel⟩ .standard none
    first.images.length = 2 ∧ second.images.map PendingImage.id = [0] ∧
      both.nodes = first.nodes ++ second.nodes.map (Node.renumbered first.images.length) ∧
      both.images = first.images ++ second.images.map (PendingImage.renumbered first.images.length) := by
  have hlast : album.getLast? = some albumText := rfl
  have haccessories : ∀ node ∈ Node.walkAll Profile.standard.accessories, node.asImage = none := by decide
  refine ⟨hlast, rfl, haccessories, ?_⟩
  intro first second both
  obtain ⟨hnodes, himages⟩ := render_append "text" hlast rfl albumSequel .standard haccessories none
  have hfirst : first.images.length = 2 := by decide +kernel
  have hsecond : second.images.map PendingImage.id = [0] := by decide +kernel
  exact ⟨hfirst, hsecond, hnodes, himages⟩

end Document

end MarkdownLayout
