import MarkdownLayout.Proofs.Restyling

/-!
# Text that is handed on

An inline element makes no node of its own: it hands the text of its leaves on to the block around it, and so do the
elements inside it. A block that holds nothing else shows all of that text as one text node, or nothing at all.
-/

namespace MarkdownLayout

namespace ElementKind

def isInline : ElementKind → Bool
  | strikethrough | strong | em | codeSpan | link | mailTo => true
  | _ => false

theorem ne_of_isInline {kind other : ElementKind} (h : kind.isInline = true) (hother : other.isInline = false) :
    kind ≠ other := by
  rintro rfl
  rw [h] at hother
  cases hother

theorem ne_of_isBoundary {kind other : ElementKind} (h : kind.isBoundary = true) (hother : other.isBoundary = false) :
    kind ≠ other := by
  rintro rfl
  rw [h] at hother
  cases hother

theorem not_isBoundary_of_isInline {kind : ElementKind} (h : kind.isInline = true) : ¬kind.isBoundary = true := by
  cases kind <;> simp_all [isInline, isBoundary]

end ElementKind

def Text.withoutFinalBreak (s : String) : String :=
  String.ofList (withoutFinal (· == '\n') s.toList)

theorem Profile.blockStyle?_of_blockFormat? {profile : Profile} {element : Element} {format : BlockFormat}
    (h : profile.blockFormat? element = some format) : profile.blockStyle? element = some format.block := by
  unfold blockStyle?
  split
  · next hkind => simp [blockFormat?, hkind] at h
  · rw [h, Option.map_some]

namespace Builder

mutual

/-- Nothing in the element interrupts the text around it. -/
def handsOn (builder : Builder) : Element → Bool
  | ⟨kind, range, children, href, alt, level⟩ =>
    builder.passesOver ⟨kind, range, children, href, alt, level⟩ || kind.isInline && handsOnBelow builder children

def handsOnBelow (builder : Builder) : List Element → Bool
  | [] => true
  | child :: rest => (child.kind.isLeaf || handsOn builder child) && handsOnBelow builder rest

end

mutual

def printed (builder : Builder) : Element → String
  | ⟨kind, range, children, href, alt, level⟩ =>
    if builder.passesOver ⟨kind, range, children, href, alt, level⟩ then "" else printedBelow builder children

def printedBelow (builder : Builder) : List Element → String
  | [] => ""
  | child :: rest =>
    (if child.kind.isLeaf then builder.leafText child else printed builder child) ++ printedBelow builder rest

end

end Builder

structure AddsText (text : String) (before after : Progress) : Prop where
  text_eq : after.buffer.text = before.buffer.text ++ text
  noEmptyRun : after.buffer.NoEmptyRun
  images_eq : after.images = before.images

namespace AddsText

variable {before middle after : Progress} {first second : String}

theorem refl {progress : Progress} (h : progress.buffer.NoEmptyRun) : AddsText "" progress progress :=
  ⟨String.append_empty.symm, h, rfl⟩

/-- Texts added one after the other join. -/
theorem trans (h : AddsText first before middle) (h' : AddsText second middle after) :
    AddsText (first ++ second) before after where
  text_eq := by rw [h'.text_eq, h.text_eq, String.append_assoc]
  noEmptyRun := h'.noEmptyRun
  images_eq := h'.images_eq.trans h.images_eq

/-- A leaf adds its text, or a line break. -/
theorem appendLeaf {progress : Progress} (h : progress.buffer.NoEmptyRun) (builder : Builder) (leaf : Element)
    (attributes : Option TextAttributes) :
    AddsText (builder.leafText leaf) progress (builder.appendLeaf leaf attributes progress) := by
  unfold Builder.leafText Builder.appendLeaf
  split
  · exact ⟨TextBuffer.text_append .., h.append "\n" none, rfl⟩
  · exact ⟨TextBuffer.text_append .., h.append _ attributes, rfl⟩

end AddsText

namespace Progress

@[simp]
theorem flushInto_empty (images : List PendingImage) (nodes : List Node) :
    flushInto ⟨.empty, images⟩ nodes = (nodes, ⟨.empty, images⟩) :=
  congrArg (·, _) (List.append_nil nodes)

@[simp]
theorem push_empty (images : List PendingImage) (nodes : List Node) (node : Node) :
    push ⟨.empty, images⟩ nodes node = (nodes ++ [node], ⟨.empty, images⟩) := by
  rw [push, flushInto_empty]

end Progress

namespace Builder

variable {builder : Builder}

/-- Elements other than rules, images and unsupported ones start with the text that waits. -/
theorem opening_eq_some {element : Element} (progress : Progress) (hrule : element.kind ≠ .horizontalRule)
    (himage : element.kind ≠ .image) (hsupported : ¬element.kind.isUnsupported = true) :
    builder.opening element progress = some ([], progress) := by
  unfold opening
  split
  · next hkind => exact absurd hkind hrule
  · next hkind => exact absurd hkind himage
  · rw [if_neg hsupported]

/-- An inline element opens with nothing of its own. -/
theorem opening_of_isInline {element : Element} (progress : Progress) (h : element.kind.isInline = true) :
    builder.opening element progress = some ([], progress) := by
  refine opening_eq_some progress ?_ ?_ ?_ <;>
    cases hkind : element.kind <;> simp_all [ElementKind.isInline, ElementKind.isUnsupported]

theorem opening_of_isBoundary {element : Element} (progress : Progress) (h : element.kind.isBoundary = true) :
    builder.opening element progress = some ([], progress) := by
  refine opening_eq_some progress ?_ ?_ ?_ <;>
    cases hkind : element.kind <;> simp_all [ElementKind.isBoundary, ElementKind.isUnsupported]

theorem build_of_opening (builder : Builder) {element : Element} {progress : Progress}
    {opened : List Node × Progress} (h : builder.opening element progress = some opened) (position : Position)
    (inherited : Option TextAttributes) :
    builder.build element position inherited progress =
      let walked := builder.buildChildren element.kind (builder.attributes element inherited) element.children 0
        opened.1 opened.2
      let closed := flushBoundary element.kind walked.1 walked.2
      (builder.closing element position (builder.attributes element inherited) closed.1, closed.2) := by
  obtain ⟨kind, range, children, href, alt, level⟩ := element
  rw [build, h]

/-- A block builds its children, drops a line break at the end of the text they leave, and closes around the rest. -/
theorem build_of_isBoundary (builder : Builder) {element : Element} (h : element.kind.isBoundary = true)
    (position : Position) (inherited : Option TextAttributes) (progress : Progress) :
    builder.build element position inherited progress =
      let walked := builder.buildChildren element.kind (builder.attributes element inherited) element.children 0 []
        progress
      (builder.closing element position (builder.attributes element inherited)
          (walked.2.buffer.trimNewline.1.flushInto walked.1), ⟨.empty, walked.2.images⟩) := by
  rw [builder.build_of_opening (opening_of_isBoundary progress h)]
  dsimp only
  rw [flushBoundary, if_pos h]
  rfl

mutual

/-- An element that hands its text on makes no node and adds what it prints. -/
theorem build_of_handsOn (builder : Builder) :
    ∀ (element : Element) (position : Position) (inherited : Option TextAttributes) (progress : Progress),
      builder.handsOn element = true → progress.buffer.NoEmptyRun →
      (builder.build element position inherited progress).1 = none ∧
        AddsText (builder.printed element) progress (builder.build element position inherited progress).2
  | ⟨kind, range, children, href, alt, level⟩, position, inherited, progress, hands, hrun => by
    rw [build, printed]
    rw [handsOn, Bool.or_eq_true, Bool.and_eq_true] at hands
    cases hopening : builder.opening ⟨kind, range, children, href, alt, level⟩ progress with
    | none =>
      rw [if_pos (opening_eq_none_iff.1 hopening)]
      exact ⟨rfl, .refl hrun⟩
    | some opened =>
      have hvisited := not_passesOver_of_opening hopening
      obtain ⟨hinline, hbelow⟩ := hands.resolve_left hvisited
      rw [opening_of_isInline progress hinline] at hopening
      cases hopening
      obtain ⟨hnodes, hadds⟩ := buildChildren_of_handsOnBelow builder kind
        (builder.attributes ⟨kind, range, children, href, alt, level⟩ inherited) children 0 [] progress hbelow hrun
      rw [if_neg hvisited]
      dsimp only
      rw [flushBoundary, if_neg (ElementKind.not_isBoundary_of_isInline hinline), hnodes]
      exact ⟨closing_eq_none_iff.2 rfl, hadds⟩

theorem buildChildren_of_handsOnBelow (builder : Builder) (parent : ElementKind)
    (attributes : Option TextAttributes) :
    ∀ (children : List Element) (index : Nat) (nodes : List Node) (progress : Progress),
      builder.handsOnBelow children = true → progress.buffer.NoEmptyRun →
      (builder.buildChildren parent attributes children index nodes progress).1 = nodes ∧
        AddsText (builder.printedBelow children) progress
          (builder.buildChildren parent attributes children index nodes progress).2
  | [], _, _, _, _, hrun => by
    rw [buildChildren, printedBelow]
    exact ⟨rfl, .refl hrun⟩
  | child :: rest, index, nodes, progress, hands, hrun => by
    rw [handsOnBelow, Bool.and_eq_true, Bool.or_eq_true] at hands
    rw [buildChildren_cons, printedBelow]
    by_cases hleaf : child.kind.isLeaf = true
    · have hadds := AddsText.appendLeaf hrun builder child attributes
      obtain ⟨hnodes, hrest⟩ := buildChildren_of_handsOnBelow builder parent attributes rest (index + 1) nodes _
        hands.2 hadds.noEmptyRun
      rw [if_pos hleaf, if_pos hleaf]
      exact ⟨hnodes, hadds.trans hrest⟩
    · obtain ⟨hnone, hadds⟩ := build_of_handsOn builder child ⟨some parent, index⟩ attributes progress
        (hands.1.resolve_left hleaf) hrun
      obtain ⟨hnodes, hrest⟩ := buildChildren_of_handsOnBelow builder parent attributes rest (index + 1) nodes _
        hands.2 hadds.noEmptyRun
      rw [if_neg hleaf, if_neg hleaf]
      dsimp only
      rw [hnone, Option.elim_none]
      exact ⟨hnodes, hadds.trans hrest⟩

end

/-- A block around one text is that text in the style of the block. -/
theorem closing_text {element : Element} (hitem : element.kind ≠ .listItem) (position : Position)
    (attributes : Option TextAttributes) (block : TextBlock) :
    builder.closing element position attributes [.text block] =
      decorate (some (.text block)) (builder.profile.blockStyle? element) := by
  rw [closing, compose, Option.map_some, if_neg hitem]

/-- A block that holds nothing but inline elements shows their text in one node, less a line break at its end. -/
theorem build_block {element : Element} (hkind : element.kind.isBoundary = true) (hitem : element.kind ≠ .listItem)
    (hands : builder.handsOnBelow element.children = true) (position : Position) (inherited : Option TextAttributes)
    (images : List PendingImage) :
    let text := Text.withoutFinalBreak (builder.printedBelow element.children)
    let built := builder.build element position inherited ⟨.empty, images⟩
    built.2 = ⟨.empty, images⟩ ∧
      if text = "" then built.1 = none
      else ∃ shown : TextBlock, shown.text = text ∧
        built.1 = decorate (some (.text shown)) (builder.profile.blockStyle? element) := by
  intro text built
  obtain ⟨hnodes, hadds⟩ := buildChildren_of_handsOnBelow builder element.kind (builder.attributes element inherited)
    element.children 0 [] ⟨.empty, images⟩ hands TextBuffer.noEmptyRun_empty
  have hbuilt : built = _ := builder.build_of_isBoundary hkind position inherited ⟨.empty, images⟩
  dsimp only at hbuilt
  generalize builder.buildChildren element.kind _ element.children 0 [] ⟨.empty, images⟩ = walked at hnodes hadds hbuilt
  rw [hnodes] at hbuilt
  have htext : walked.2.buffer.trimNewline.1.text = text := by
    have hwaiting : walked.2.buffer.text = builder.printedBelow element.children := by
      rw [hadds.text_eq]
      exact String.empty_append
    rw [← String.toList_inj, TextBuffer.toList_text_trimNewline hadds.noEmptyRun, hwaiting]
    exact String.toList_ofList.symm
  have hempty := TextBuffer.text_eq_empty_iff hadds.noEmptyRun.trimNewline
  rw [htext] at hempty
  have himages : walked.2.images = images := hadds.images_eq
  constructor
  · rw [hbuilt, himages]
  · rw [hbuilt]
    dsimp only [TextBuffer.flushInto]
    rw [TextBuffer.flush]
    split
    · next hnone =>
      rw [if_pos (hempty.1 hnone)]
      exact closing_eq_none_iff.2 rfl
    · next hshown =>
      rw [if_neg fun hnone => hshown (hempty.2 hnone)]
      exact ⟨⟨walked.2.buffer.trimNewline.1.runs⟩, htext, closing_text hitem position _ _⟩

end Builder

end MarkdownLayout
