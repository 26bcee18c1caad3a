import MarkdownLayout.Proofs.Provenance

/-!
# Restyling keeps the content

Attributes decide which runs are joined, so under two profiles the same document leaves different runs behind. But
nothing that a walk does depends on where one run ends and the next begins: whether text waits, whether it ends in
a line break, and whether an element yields a node are the same under both. The two walks of a document are compared
step by step, by the text that waits, the texts already in nodes, and the images.
-/

namespace MarkdownLayout

namespace Glyph

def char : Glyph → Char
  | letter char _ => char
  | picture _ _ | bar _ _ _ => '\ufffc'

theorem isBreak_eq : isBreak = (· == '\n') ∘ char := by
  funext glyph
  cases glyph <;> rfl

theorem map_char_ofText (text : String) (attributes : Option TextAttributes) :
    (ofText text attributes).map char = text.toList := by
  simp [ofText, Function.comp_def, char]

end Glyph

namespace TextBuffer

def text (buffer : TextBuffer) : String :=
  TextBlock.text ⟨buffer.runs⟩

theorem toList_text (buffer : TextBuffer) : buffer.text.toList = buffer.glyphs.map Glyph.char := by
  have hrun (run : TextRun) : run.glyphs.map Glyph.char = run.text.toList :=
    Glyph.map_char_ofText run.text run.attributes
  rw [glyphs, List.map_flatMap]
  simp only [hrun, text, TextBlock.text, String.toList_join, List.flatMap_map]

theorem text_append (buffer : TextBuffer) (text : String) (attributes : Option TextAttributes) :
    (buffer.append text attributes).text = buffer.text ++ text := by
  rw [← String.toList_inj, toList_text, glyphs_append, List.map_append, ← toList_text,
    Glyph.map_char_ofText, String.toList_append]

theorem toList_text_trimNewline {buffer : TextBuffer} (h : buffer.NoEmptyRun) :
    buffer.trimNewline.1.text.toList = withoutFinal (· == '\n') buffer.text.toList := by
  rw [toList_text, glyphs_trimNewline h, Glyph.isBreak_eq, map_withoutFinal, ← toList_text]

theorem text_eq_empty_iff {buffer : TextBuffer} (h : buffer.NoEmptyRun) :
    buffer.text = "" ↔ buffer.isEmpty = true := by
  rw [← glyphs_eq_nil_iff h, ← String.toList_eq_nil_iff, toList_text, List.map_eq_nil_iff]

end TextBuffer

namespace Node

def texts (nodes : List Node) : List String :=
  gather (fun node => (node.asText.map TextBlock.text).toList) nodes

theorem asText_ignoresWrappers : IgnoresWrappers fun node => (node.asText.map TextBlock.text).toList :=
  ⟨fun _ _ _ => rfl, fun _ _ => rfl⟩

@[simp]
theorem texts_append (front back : List Node) : texts (front ++ back) = texts front ++ texts back :=
  gather_append front back

@[simp]
theorem texts_ofText (text : String) (attributes : Option TextAttributes) :
    texts [ofText text attributes] = [text] := by
  simp [texts, gather, walkAll, walk, ofText, asText, TextBlock.text]

theorem texts_eq_nil {nodes : List Node} (h : ∀ node ∈ walkAll nodes, node.asText = none) :
    texts nodes = [] :=
  gather_eq_nil fun node hnode => by rw [h node hnode]; rfl

theorem filterMap_asText (nodes : List Node) :
    ((walkAll nodes).filterMap asText).map TextBlock.text = texts nodes := by
  rw [List.map_filterMap, List.filterMap_eq_flatMap_toList]
  rfl

end Node

/-- Flushing makes one text of all that waits. -/
theorem TextBuffer.texts_flush {buffer : TextBuffer} (h : buffer.NoEmptyRun) :
    Node.texts buffer.flush.toList = if buffer.text = "" then [] else [buffer.text] := by
  rw [flush]
  by_cases hempty : buffer.isEmpty = true
  · rw [if_pos hempty, if_pos ((text_eq_empty_iff h).2 hempty)]
    rfl
  · rw [if_neg hempty, if_neg (fun htext => hempty ((text_eq_empty_iff h).1 htext))]
    rfl

structure Alike (nodes others : List Node) (progress other : Progress) : Prop where
  texts_eq : Node.texts nodes = Node.texts others
  nil_iff : nodes = [] ↔ others = []
  waiting_eq : progress.buffer.text = other.buffer.text
  noEmptyRun : progress.buffer.NoEmptyRun
  noEmptyRun_other : other.buffer.NoEmptyRun
  images_eq : progress.images = other.images

namespace Alike

variable {nodes others : List Node} {progress other : Progress}

theorem start : Alike [] [] {} {} :=
  ⟨rfl, Iff.rfl, rfl, TextBuffer.noEmptyRun_empty, TextBuffer.noEmptyRun_empty, rfl⟩

theorem pending (h : Alike nodes others progress other) : Alike [] [] progress other :=
  { h with texts_eq := rfl, nil_iff := Iff.rfl }

/-- The two walks may add the same text in different attributes. -/
theorem append (h : Alike nodes others progress other) (text : String)
    (attributes otherAttributes : Option TextAttributes) :
    Alike nodes others { progress with buffer := progress.buffer.append text attributes }
      { other with buffer := other.buffer.append text otherAttributes } where
  texts_eq := h.texts_eq
  nil_iff := h.nil_iff
  waiting_eq := by simp only [TextBuffer.text_append, h.waiting_eq]
  noEmptyRun := h.noEmptyRun.append text attributes
  noEmptyRun_other := h.noEmptyRun_other.append text otherAttributes
  images_eq := h.images_eq

theorem trim (h : Alike nodes others progress other) :
    Alike nodes others { progress with buffer := progress.buffer.trimNewline.1 }
      { other with buffer := other.buffer.trimNewline.1 } where
  texts_eq := h.texts_eq
  nil_iff := h.nil_iff
  waiting_eq := by
    rw [← String.toList_inj, TextBuffer.toList_text_trimNewline h.noEmptyRun,
      TextBuffer.toList_text_trimNewline h.noEmptyRun_other, h.waiting_eq]
  noEmptyRun := h.noEmptyRun.trimNewline
  noEmptyRun_other := h.noEmptyRun_other.trimNewline
  images_eq := h.images_eq

/-- Text waits in both walks or in neither, though it may be in different runs. -/
theorem flush_eq_none_iff (h : Alike nodes others progress other) :
    progress.buffer.flush = none ↔ other.buffer.flush = none := by
  rw [TextBuffer.flush_eq_none_iff, TextBuffer.flush_eq_none_iff, ← TextBuffer.text_eq_empty_iff h.noEmptyRun,
    ← TextBuffer.text_eq_empty_iff h.noEmptyRun_other, h.waiting_eq]

theorem flushInto (h : Alike nodes others progress other) :
    Alike (progress.flushInto nodes).1 (other.flushInto others).1 (progress.flushInto nodes).2
      (other.flushInto others).2 where
  texts_eq := by
    simp only [Progress.flushInto, TextBuffer.flushInto, Node.texts_append, h.texts_eq,
      TextBuffer.texts_flush h.noEmptyRun, TextBuffer.texts_flush h.noEmptyRun_other, h.waiting_eq]
  nil_iff := by
    simp [Progress.flushInto, TextBuffer.flushInto, h.nil_iff, h.flush_eq_none_iff]
  waiting_eq := rfl
  noEmptyRun := TextBuffer.noEmptyRun_empty
  noEmptyRun_other := TextBuffer.noEmptyRun_empty
  images_eq := h.images_eq

/-- Nodes with the same texts leave the two walks alike. -/
theorem push (h : Alike nodes others progress other) {node otherNode : Node}
    (hnode : Node.texts [node] = Node.texts [otherNode]) :
    Alike (progress.push nodes node).1 (other.push others otherNode).1 (progress.push nodes node).2
      (other.push others otherNode).2 :=
  { h.flushInto with
    texts_eq := by
      rw [Progress.push, Progress.push, Node.texts_append, Node.texts_append, h.flushInto.texts_eq, hnode]
    nil_iff := by simp [Progress.push] }

/-- If a child is alike in both walks, they stay alike behind it. -/
theorem take (h : Alike nodes others progress other) {node otherNode : Option Node}
    {after otherAfter : Progress} (hchild : Alike node.toList otherNode.toList after otherAfter) :
    Alike (node.elim (nodes, after) (after.push nodes)).1
      (otherNode.elim (others, otherAfter) (otherAfter.push others)).1
      (node.elim (nodes, after) (after.push nodes)).2
      (otherNode.elim (others, otherAfter) (otherAfter.push others)).2 := by
  have hkept : Alike nodes others after otherAfter :=
    { hchild with texts_eq := h.texts_eq, nil_iff := h.nil_iff }
  -- the element yields a node in both walks or in neither
  have hsome := hchild.nil_iff
  cases node with
  | none =>
    cases otherNode with
    | none => exact hkept
    | some otherNode => simp at hsome
  | some node =>
    cases otherNode with
    | none => simp at hsome
    | some otherNode => exact hkept.push hchild.texts_eq

theorem close (h : Alike nodes others progress other) (kind : ElementKind) :
    Alike (Builder.flushBoundary kind nodes progress).1 (Builder.flushBoundary kind others other).1
      (Builder.flushBoundary kind nodes progress).2 (Builder.flushBoundary kind others other).2 := by
  unfold Builder.flushBoundary
  split
  · exact h.trim.flushInto
  · exact h

end Alike

namespace Builder

def restyled (builder : Builder) (profile : Profile) : Builder :=
  { builder with profile }

variable {builder : Builder} {profile : Profile} {nodes others : List Node} {progress other : Progress}

theorem appendLeaf_alike (h : Alike nodes others progress other) (leaf : Element)
    (attributes otherAttributes : Option TextAttributes) :
    Alike nodes others (builder.appendLeaf leaf attributes progress)
      ((builder.restyled profile).appendLeaf leaf otherAttributes other) := by
  unfold appendLeaf
  split
  · exact h.append "\n" none none
  · exact h.append (builder.document.text leaf) attributes otherAttributes

theorem passesOver_restyled (profile : Profile) (element : Element) :
    (builder.restyled profile).passesOver element = builder.passesOver element := rfl

/-- An element opens in both walks or in neither, since no style decides it. -/
theorem opening_alike (profile : Profile) (h : Alike [] [] progress other) {element : Element} {after : Progress}
    (hopening : builder.opening element progress = some (nodes, after)) :
    ∃ others otherAfter, (builder.restyled profile).opening element other = some (others, otherAfter) ∧
      Alike nodes others after otherAfter := by
  unfold opening at hopening ⊢
  cases hkind : element.kind
  case horizontalRule =>
    rw [hkind] at hopening
    cases hopening
    exact ⟨_, _, rfl, h.push rfl⟩
  case image =>
    rw [hkind] at hopening
    obtain ⟨url, hurl, hpushed⟩ := Option.map_eq_some_iff.1 hopening
    cases hpushed
    -- a destination is resolved without a look at the profile
    have hother : (builder.restyled profile).resolveImage? element = some url := hurl
    have himage : Node.texts [.image ⟨progress.images.length, url, element.alt⟩] =
        Node.texts [.image ⟨other.images.length, url, element.alt⟩] := rfl
    refine ⟨_, _, by rw [hother]; rfl, ?_⟩
    exact { h.push himage with images_eq := by rw [h.images_eq] }
  all_goals
    simp only [hkind, ElementKind.isUnsupported, if_true, Bool.false_eq_true, if_false, reduceCtorEq,
      Option.some.injEq] at hopening
  all_goals
    cases hopening
    exact ⟨[], other, rfl, h⟩

/-- Styles add no text, and a list item adds its delimiter. -/
theorem texts_closing (builder : Builder)
    (haccessories : ∀ node ∈ Node.walkAll builder.profile.accessories, node.asText = none)
    (element : Element) (position : Position) (attributes : Option TextAttributes) (hnodes : nodes ≠ []) :
    Node.texts (builder.closing element position attributes nodes).toList =
      (if element.kind = .listItem then [marker position] else []) ++ Node.texts nodes := by
  obtain ⟨hfront, hback⟩ := Profile.forall_mem_accessories haccessories element
  have hclosing : Node.texts (builder.closing element position attributes nodes).toList =
      Node.texts (builder.profile.frontOf element) ++
          (if element.kind = .listItem then Node.texts [.ofText (marker position) attributes] else []) ++
        Node.texts nodes ++ Node.texts (builder.profile.backOf element) :=
    gather_closing Node.asText_ignoresWrappers builder element position attributes hnodes
  rw [hclosing, Node.texts_eq_nil hfront, Node.texts_eq_nil hback, Node.texts_ofText, List.nil_append,
    List.append_nil]

theorem closing_alike (haccessories : ∀ node ∈ Node.walkAll builder.profile.accessories, node.asText = none)
    (hprofile : ∀ node ∈ Node.walkAll profile.accessories, node.asText = none)
    (h : Alike nodes others progress other) (element : Element) (position : Position)
    (attributes otherAttributes : Option TextAttributes) :
    Alike (builder.closing element position attributes nodes).toList
      ((builder.restyled profile).closing element position otherAttributes others).toList progress other := by
  by_cases hnil : nodes = []
  · rw [closing_eq_none_iff.2 hnil, closing_eq_none_iff.2 (h.nil_iff.1 hnil)]
    exact h.pending
  · have hothers : others ≠ [] := fun heq => hnil (h.nil_iff.2 heq)
    refine { h with texts_eq := ?_, nil_iff := ?_ }
    · rw [texts_closing builder haccessories element position attributes hnil,
        texts_closing (builder.restyled profile) hprofile element position otherAttributes hothers, h.texts_eq]
    · simp [closing_eq_none_iff, hnil, hothers]

mutual

/-- Two walks that start alike build nodes with the same texts and register the same images, whatever attributes they
hand on. -/
theorem build_alike (builder : Builder) (profile : Profile)
    (haccessories : ∀ node ∈ Node.walkAll builder.profile.accessories, node.asText = none)
    (hprofile : ∀ node ∈ Node.walkAll profile.accessories, node.asText = none) :
    ∀ (element : Element) (position : Position) (inherited otherInherited : Option TextAttributes)
      (progress other : Progress), Alike [] [] progress other →
      Alike (builder.build element position inherited progress).1.toList
        ((builder.restyled profile).build element position otherInherited other).1.toList
        (builder.build element position inherited progress).2
        ((builder.restyled profile).build element position otherInherited other).2
  | ⟨kind, range, children, href, alt, level⟩, position, inherited, otherInherited, progress, other, h => by
    rw [build, build]
    cases hopening : builder.opening ⟨kind, range, children, href, alt, level⟩ progress with
    | none =>
      have hskip := opening_eq_none_iff.1 hopening
      rw [← passesOver_restyled profile] at hskip
      rw [opening_eq_none_iff.2 hskip]
      exact h
    | some opened =>
      obtain ⟨others, otherAfter, hother, hopened⟩ := opening_alike profile h hopening
      rw [hother]
      have hchildren := buildChildren_alike builder profile haccessories hprofile kind
        (builder.attributes ⟨kind, range, children, href, alt, level⟩ inherited)
        ((builder.restyled profile).attributes ⟨kind, range, children, href, alt, level⟩ otherInherited)
        children 0 opened.1 others opened.2 otherAfter hopened
      exact closing_alike haccessories hprofile (hchildren.close kind) _ position _ _

theorem buildChildren_alike (builder : Builder) (profile : Profile)
    (haccessories : ∀ node ∈ Node.walkAll builder.profile.accessories, node.asText = none)
    (hprofile : ∀ node ∈ Node.walkAll profile.accessories, node.asText = none)
    (parent : ElementKind) (attributes otherAttributes : Option TextAttributes) :
    ∀ (children : List Element) (index : Nat) (nodes others : List Node) (progress other : Progress),
      Alike nodes others progress other →
      Alike (builder.buildChildren parent attributes children index nodes progress).1
        ((builder.restyled profile).buildChildren parent otherAttributes children index others other).1
        (builder.buildChildren parent attributes children index nodes progress).2
        ((builder.restyled profile).buildChildren parent otherAttributes children index others other).2
  | [], _, _, _, _, _, h => by
    rw [buildChildren, buildChildren]
    exact h
  | child :: rest, index, nodes, others, progress, other, h => by
    rw [buildChildren_cons, buildChildren_cons]
    split
    · exact buildChildren_alike builder profile haccessories hprofile parent attributes otherAttributes rest
        (index + 1) _ _ _ _ (appendLeaf_alike h child attributes otherAttributes)
    · have hchild := build_alike builder profile haccessories hprofile child ⟨some parent, index⟩ attributes
        otherAttributes progress other h.pending
      exact buildChildren_alike builder profile haccessories hprofile parent attributes otherAttributes rest
        (index + 1) _ _ _ _ (h.take hchild)

end

/-- So do the walks of two whole documents. -/
theorem renderElements_alike (builder : Builder) (profile : Profile)
    (haccessories : ∀ node ∈ Node.walkAll builder.profile.accessories, node.asText = none)
    (hprofile : ∀ node ∈ Node.walkAll profile.accessories, node.asText = none)
    (elements : List Element) (index : Nat) (nodes others : List Node) (progress other : Progress)
    (h : Alike nodes others progress other) :
    Alike (builder.renderElements elements index nodes progress).1
      ((builder.restyled profile).renderElements elements index others other).1
      (builder.renderElements elements index nodes progress).2
      ((builder.restyled profile).renderElements elements index others other).2 := by
  induction elements generalizing index nodes others progress other with
  | nil =>
    rw [renderElements, renderElements]
    exact h.flushInto
  | cons element rest ih =>
    rw [renderElements_cons, renderElements_cons]
    split
    · exact ih (index + 1) _ _ _ _ (h.append (builder.document.text element) none none)
    · have hbuilt := build_alike builder profile haccessories hprofile element ⟨none, index⟩ none none progress
        other h.pending
      exact ih (index + 1) _ _ _ _ (h.take hbuilt)

end Builder

namespace Document

/-- Profiles without text among their accessories give a document the same images and, node by node in walk order,
the same texts. -/
theorem content_unstyled (document : Document) (base : Option Url) (first second : Profile)
    (hfirst : ∀ node ∈ Node.walkAll first.accessories, node.asText = none)
    (hsecond : ∀ node ∈ Node.walkAll second.accessories, node.asText = none) :
    let one := document.render first base
    let other := document.render second base
    one.images = other.images ∧
      ((Node.walkAll one.nodes).filterMap Node.asText).map TextBlock.text =
        ((Node.walkAll other.nodes).filterMap Node.asText).map TextBlock.text := by
  intro one other
  have halike := Builder.renderElements_alike { document, profile := first, base } second hfirst hsecond
    document.elements 0 [] [] {} {} .start
  refine ⟨halike.images_eq, ?_⟩
  rw [Node.filterMap_asText, Node.filterMap_asText]
  exact halike.texts_eq

def numberedItem : Document where
  source := "1. a**b**\n"
  elements := [{
    kind := .numberedList
    range := ⟨0, 10⟩
    children := [{
      kind := .listItem
      range := ⟨0, 10⟩
      children := [
        { kind := .plainRun, range := ⟨3, 4⟩ },
        { kind := .strong, range := ⟨4, 9⟩, children := [{ kind := .plainRun, range := ⟨6, 7⟩ }] },
        { kind := .image, range := ⟨4, 9⟩, href := some "http://a/b" }] }] }]

/-- A numbered item under two profiles. -/
theorem numberedItem_unstyled :
    (∀ node ∈ Node.walkAll Profile.neutral.accessories, node.asText = none) ∧
      (∀ node ∈ Node.walkAll Profile.standard.accessories, node.asText = none) ∧
      (numberedItem.render .neutral none).images = (numberedItem.render .standard none).images ∧
      ((Node.walkAll (numberedItem.render .neutral none).nodes).filterMap Node.asText).map TextBlock.text =
        ["1.", "ab"] ∧
      ((Node.walkAll (numberedItem.render .standard none).nodes).filterMap Node.asText).map TextBlock.text =
        ["1.", "ab"] := by
  have hneutral : ∀ node ∈ Node.walkAll Profile.neutral.accessories, node.asText = none := by decide
  have hstandard : ∀ node ∈ Node.walkAll Profile.standard.accessories, node.asText = none := by decide
  obtain ⟨himages, htexts⟩ := content_unstyled numberedItem none .neutral .standard hneutral hstandard
  have hshown : ((Node.walkAll (numberedItem.render .neutral none).nodes).filterMap Node.asText).map
      TextBlock.text = ["1.", "ab"] := by decide
  exact ⟨hneutral, hstandard, himages, hshown, htexts ▸ hshown⟩

end Document

end MarkdownLayout
