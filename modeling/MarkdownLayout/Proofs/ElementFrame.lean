import MarkdownLayout.Proofs.Concatenation
import MarkdownLayout.Proofs.StyledText
import MarkdownLayout.Proofs.Visit

/-!
# What an element leaves behind

Nodes, waiting text and registered images change together along a walk. Nodes that a walk has made are never given
up, so an element without a node has made none on the way: it has registered no image and taken nothing out of the
buffer. All it can have done is to add the text of its leaves, from which only the end of a block takes something
away. Images are registered at the end of the list, by whichever call comes to them.
-/

namespace MarkdownLayout

namespace Builder

mutual

def placedLeaves (builder : Builder) (around : List Element) : Element → List (List Element × Element)
  | ⟨kind, range, children, href, alt, level⟩ =>
    let element : Element := ⟨kind, range, children, href, alt, level⟩
    if builder.passesOver element then [] else placedLeavesBelow builder (around ++ [element]) children

def placedLeavesBelow (builder : Builder) (around : List Element) : List Element → List (List Element × Element)
  | [] => []
  | child :: rest =>
    (if child.kind.isLeaf then [(around, child)] else placedLeaves builder around child) ++
      placedLeavesBelow builder around rest

end

def attributesInside (builder : Builder) (around : List Element) (inherited : Option TextAttributes) :
    Option TextAttributes :=
  around.foldl (fun outer element => builder.attributes element outer) inherited

/-- The text of a leaf in the attributes of its place. Line breaks are plain. -/
def contribution (builder : Builder) (inherited : Option TextAttributes) (placed : List Element × Element) :
    StyledText :=
  let attributes := if placed.2.range.isEmpty then none else builder.attributesInside placed.1 inherited
  (builder.leafText placed.2).toList.map (⟨·, attributes⟩)

def contributions (builder : Builder) (element : Element) (inherited : Option TextAttributes) : StyledText :=
  (builder.placedLeaves [] element).flatMap (builder.contribution inherited)

variable {builder : Builder}

theorem attributesInside_concat (around : List Element) (element : Element) (inherited : Option TextAttributes) :
    builder.attributesInside (around ++ [element]) inherited =
      builder.attributes element (builder.attributesInside around inherited) := by
  rw [attributesInside, List.foldl_append]
  rfl

theorem glyphs_contribution (inherited : Option TextAttributes) (around : List Element) (leaf : Element) :
    (builder.contribution inherited (around, leaf)).glyphs =
      builder.leafGlyphs leaf (builder.attributesInside around inherited) := by
  rw [contribution, leafGlyphs, StyledText.glyphs, Glyph.ofText, List.map_map]
  rfl

/-- A leaf adds its text with the attributes that it is given. -/
theorem glyphs_appendLeaf (leaf : Element) (attributes : Option TextAttributes) (progress : Progress) :
    (builder.appendLeaf leaf attributes progress).buffer.glyphs =
      progress.buffer.glyphs ++ builder.leafGlyphs leaf attributes := by
  unfold appendLeaf leafGlyphs leafText
  split <;> exact TextBuffer.glyphs_append ..

end Builder

/-! ## Elements without a node -/

/-- What a walk does while it makes no node: it registers no image, and unless it comes to the end of a block, it adds
to the waiting text. -/
structure Silent (visited : List Element) (text : StyledText) (before after : Progress) : Prop where
  images_eq : after.images = before.images
  glyphs_eq : (∀ element ∈ visited, element.kind.isBoundary = false) →
    after.buffer.glyphs = before.buffer.glyphs ++ text.glyphs

namespace Silent

variable {visited more : List Element} {text rest : StyledText} {before middle after : Progress}

theorem refl (progress : Progress) : Silent [] [] progress progress :=
  ⟨rfl, fun _ => (List.append_nil _).symm⟩

/-- Two silent stretches one after the other are silent. -/
theorem trans (h : Silent visited text before middle) (h' : Silent more rest middle after) :
    Silent (visited ++ more) (text ++ rest) before after where
  images_eq := h'.images_eq.trans h.images_eq
  glyphs_eq hblocks := by
    obtain ⟨hfirst, hsecond⟩ := List.forall_mem_append.1 hblocks
    rw [h'.glyphs_eq hsecond, h.glyphs_eq hfirst, StyledText.glyphs_append, List.append_assoc]

theorem appendLeaf (builder : Builder) (inherited : Option TextAttributes) (around : List Element) (leaf : Element)
    (progress : Progress) :
    Silent [] (builder.contribution inherited (around, leaf)) progress
      (builder.appendLeaf leaf (builder.attributesInside around inherited) progress) where
  images_eq := Builder.images_appendLeaf leaf _ progress
  glyphs_eq _ := by rw [Builder.glyphs_appendLeaf, Builder.glyphs_contribution]

/-- The end of a block may take a line break away, so that it counts among the blocks that are visited. -/
theorem close (h : Silent visited text before after) (element : Element) (nodes : List Node) :
    Silent (element :: visited) text before (Builder.flushBoundary element.kind nodes after).2 where
  images_eq := (Builder.images_flushBoundary element.kind nodes after).trans h.images_eq
  glyphs_eq hblocks := by
    rw [List.forall_mem_cons] at hblocks
    rw [Builder.flushBoundary, if_neg (by simp [hblocks.1])]
    exact h.glyphs_eq hblocks.2

end Silent

namespace Builder

variable {builder : Builder}

theorem eq_of_opening_nil {element : Element} {progress after : Progress}
    (h : builder.opening element progress = some ([], after)) : after = progress := by
  unfold opening at h
  split at h
  · simp [Progress.push] at h
  · simp [Progress.push] at h
  · split at h
    · cases h
    · cases h
      rfl

theorem prefix_nodes_take (built : Option Node) (nodes : List Node) (progress : Progress) :
    nodes <+: (built.elim (nodes, progress) (progress.push nodes)).1 := by
  cases built with
  | none => exact List.prefix_rfl
  | some node => simp [Progress.push, Progress.flushInto, TextBuffer.flushInto]

/-- Children never take nodes away. -/
theorem prefix_nodes_buildChildren (parent : ElementKind) (attributes : Option TextAttributes)
    (children : List Element) (index : Nat) (nodes : List Node) (progress : Progress) :
    nodes <+: (builder.buildChildren parent attributes children index nodes progress).1 := by
  induction children generalizing index nodes progress with
  | nil => simp [buildChildren]
  | cons child rest ih =>
    rw [buildChildren_cons]
    split
    · exact ih (index + 1) nodes _
    · exact (prefix_nodes_take ..).trans (ih (index + 1) _ _)

theorem prefix_nodes_flushBoundary (kind : ElementKind) (nodes : List Node) (progress : Progress) :
    nodes <+: (flushBoundary kind nodes progress).1 := by
  unfold flushBoundary
  split
  · exact List.prefix_append ..
  · exact List.prefix_rfl

mutual

/-- An element without a node is silent about everything but its leaves. -/
theorem build_silent (builder : Builder) (inherited : Option TextAttributes) :
    ∀ (element : Element) (position : Position) (around : List Element) (progress : Progress),
      (builder.build element position (builder.attributesInside around inherited) progress).1 = none →
      Silent (builder.visited element) ((builder.placedLeaves around element).flatMap (builder.contribution inherited))
        progress (builder.build element position (builder.attributesInside around inherited) progress).2
  | ⟨kind, range, children, href, alt, level⟩, position, around, progress, hnone => by
    rw [visited, placedLeaves]
    rw [build] at hnone ⊢
    cases hopening : builder.opening ⟨kind, range, children, href, alt, level⟩ progress with
    | none =>
      rw [if_pos (opening_eq_none_iff.1 hopening), if_pos (opening_eq_none_iff.1 hopening)]
      exact .refl progress
    | some opened =>
      obtain ⟨nodes, after⟩ := opened
      have hvisited := not_passesOver_of_opening hopening
      rw [hopening] at hnone
      rw [if_neg hvisited, if_neg hvisited]
      dsimp only at hnone ⊢
      rw [← attributesInside_concat] at hnone ⊢
      -- no node at the end means none behind the children, and none before them
      have hwalked := List.prefix_nil.1 (closing_eq_none_iff.1 hnone ▸ prefix_nodes_flushBoundary kind _ _)
      have hnodes : nodes = [] := List.prefix_nil.1 (hwalked ▸ prefix_nodes_buildChildren ..)
      subst hnodes
      obtain rfl := eq_of_opening_nil hopening
      exact (buildChildren_silent builder inherited kind _ children 0 [] after hwalked).close
        ⟨kind, range, children, href, alt, level⟩ _

theorem buildChildren_silent (builder : Builder) (inherited : Option TextAttributes) (parent : ElementKind)
    (around : List Element) :
    ∀ (children : List Element) (index : Nat) (nodes : List Node) (progress : Progress),
      (builder.buildChildren parent (builder.attributesInside around inherited) children index nodes progress).1 =
        [] →
      Silent (builder.visitedBelow children)
        ((builder.placedLeavesBelow around children).flatMap (builder.contribution inherited)) progress
        (builder.buildChildren parent (builder.attributesInside around inherited) children index nodes progress).2
  | [], index, nodes, progress, _ => by
    rw [buildChildren, visitedBelow, placedLeavesBelow]
    exact .refl progress
  | child :: rest, index, nodes, progress, hnodes => by
    rw [visitedBelow, placedLeavesBelow, List.flatMap_append]
    rw [buildChildren_cons] at hnodes ⊢
    by_cases hleaf : child.kind.isLeaf = true
    · rw [if_pos hleaf] at hnodes ⊢
      rw [if_pos hleaf, if_pos hleaf, List.flatMap_singleton]
      exact (Silent.appendLeaf builder inherited around child progress).trans
        (buildChildren_silent builder inherited parent around rest (index + 1) nodes _ hnodes)
    · rw [if_neg hleaf] at hnodes ⊢
      rw [if_neg hleaf, if_neg hleaf]
      dsimp only at hnodes ⊢
      have hrest := buildChildren_silent builder inherited parent around rest (index + 1) _ _ hnodes
      have htaken := List.prefix_nil.1 (hnodes ▸ prefix_nodes_buildChildren ..)
      -- a node of the child would be among those behind it
      have hnone : (builder.build child ⟨some parent, index⟩ (builder.attributesInside around inherited)
          progress).1 = none := by
        refine Option.eq_none_iff_forall_ne_some.2 fun node hnode => ?_
        rw [hnode] at htaken
        simp [Progress.push] at htaken
      have hchild := build_silent builder inherited child ⟨some parent, index⟩ around progress hnone
      rw [hnone] at hrest ⊢
      exact hchild.trans hrest

end

end Builder

/-! ## Images on the way -/

/-- The images at some moments of a walk, one after the other, and those at its end: at each of them the images
before stand at the front. -/
structure Grows (first : List PendingImage) (between : List (List PendingImage)) (last : List PendingImage) :
    Prop where
  isPrefix_of_mem : ∀ images ∈ between ++ [last], first <+: images
  pairwise : (between ++ [last]).Pairwise (· <+: ·)

namespace Grows

variable {first middle last : List PendingImage} {between more : List (List PendingImage)}

theorem of_isPrefix (h : first <+: last) : Grows first [] last :=
  ⟨by simpa using h, List.pairwise_singleton ..⟩

theorem isPrefix_last (h : Grows first between last) : first <+: last :=
  h.isPrefix_of_mem last (List.mem_append_right _ (List.mem_singleton_self last))

/-- Images that grow twice grow from the first to the last. -/
theorem trans (h : Grows first between middle) (h' : Grows middle more last) : Grows first (between ++ more) last := by
  have hpairs := List.pairwise_append.1 h.pairwise
  constructor
  · intro images himages
    rw [List.append_assoc] at himages
    rcases List.mem_append.1 himages with hbefore | hafter
    · exact h.isPrefix_of_mem images (List.mem_append_left _ hbefore)
    · exact h.isPrefix_last.trans (h'.isPrefix_of_mem images hafter)
  · rw [List.append_assoc]
    refine List.pairwise_append.2 ⟨hpairs.1, h'.pairwise, fun images himages later hlater => ?_⟩
    have hmiddle : images <+: middle := hpairs.2.2 images himages middle (List.mem_singleton_self middle)
    exact hmiddle.trans (h'.isPrefix_of_mem later hlater)

theorem cons_first (h : Grows first between last) : Grows first (first :: between) last where
  isPrefix_of_mem := List.forall_mem_cons.2 ⟨List.prefix_rfl, h.isPrefix_of_mem⟩
  pairwise := List.pairwise_cons.2 ⟨h.isPrefix_of_mem, h.pairwise⟩

end Grows

namespace Builder

variable {builder : Builder}

theorem images_prefix_opening {element : Element} {progress after : Progress} {nodes : List Node}
    (h : builder.opening element progress = some (nodes, after)) : progress.images <+: after.images := by
  rw [(registers_opening h).images_eq]
  exact List.prefix_append ..

mutual

/-- Every visit finds the images of those before it, and the end of the walk finds all of them. -/
theorem visits_grow (builder : Builder) :
    ∀ (element : Element) (position : Position) (path : List Nat) (inherited : Option TextAttributes)
      (progress : Progress) (waiting : List Mark),
      Grows progress.images
        ((builder.visits element position path inherited progress waiting).map (·.progress.images))
        (builder.build element position inherited progress).2.images
  | ⟨kind, range, children, href, alt, level⟩, position, path, inherited, progress, waiting => by
    rw [visits, build, List.map_cons]
    cases hopening : builder.opening ⟨kind, range, children, href, alt, level⟩ progress with
    | none => exact (Grows.of_isPrefix List.prefix_rfl).cons_first
    | some opened =>
      have hbelow := visitsBelow_grow builder kind path
        (builder.attributes ⟨kind, range, children, href, alt, level⟩ inherited) children 0 opened.1 opened.2
        (Trace.opened (Mark.stamp .content path
          (builder.ownGlyphs ⟨kind, range, children, href, alt, level⟩)) waiting).waiting
      dsimp only
      rw [images_flushBoundary]
      exact ((Grows.of_isPrefix (images_prefix_opening hopening)).trans hbelow).cons_first

theorem visitsBelow_grow (builder : Builder) (parent : ElementKind) (path : List Nat)
    (attributes : Option TextAttributes) :
    ∀ (children : List Element) (index : Nat) (nodes : List Node) (progress : Progress) (waiting : List Mark),
      Grows progress.images
        ((builder.visitsBelow parent path attributes children index progress waiting).map (·.progress.images))
        (builder.buildChildren parent attributes children index nodes progress).2.images
  | [], _, _, progress, _ => by
    rw [visitsBelow, buildChildren]
    exact .of_isPrefix List.prefix_rfl
  | child :: rest, index, nodes, progress, waiting => by
    rw [visitsBelow, buildChildren_cons]
    split
    · have hrest := visitsBelow_grow builder parent path attributes rest (index + 1) nodes
        (builder.appendLeaf child attributes progress)
        (waiting ++ Mark.stamp .content (path ++ [index]) (builder.leafGlyphs child attributes))
      rwa [images_appendLeaf] at hrest
    · let visit : Visit := ⟨child, ⟨some parent, index⟩, path ++ [index], attributes, progress, waiting⟩
      have hchild := visits_grow builder child ⟨some parent, index⟩ (path ++ [index]) attributes progress waiting
      have hrest := visitsBelow_grow builder parent path attributes rest (index + 1)
        ((visit.built builder).1.elim (nodes, (visit.built builder).2) ((visit.built builder).2.push nodes)).1
        (visit.progressAfter builder) (visit.waitingAfter builder)
      rw [visit.images_progressAfter, ← visit.take_eq_progressAfter builder nodes] at hrest
      rw [List.map_append]
      dsimp only
      rw [← visit.take_eq_progressAfter builder nodes]
      exact hchild.trans hrest

end

/-- What is left when an element has been built, whatever waited and whatever images there were. Nothing waits behind a
block. The images at the end begin with those at the start, and so do the images at any visit on the way with those
at every visit before. An element without a node has registered no image; if no block is visited in it, the text that
waited is followed by that of its visited leaves, in document order. Passing over an element visits nothing. -/
theorem build_frame (builder : Builder) (element : Element) (position : Position) (path : List Nat)
    (inherited : Option TextAttributes) (progress : Progress) (waiting : List Mark) :
    let built := builder.build element position inherited progress
    let visits := builder.visits element position path inherited progress waiting
    (element.kind.isBoundary = true → built.2.buffer.isEmpty = true) ∧
      progress.images <+: built.2.images ∧
      (visits.map (·.progress.images) ++ [built.2.images]).Pairwise (· <+: ·) ∧
      (built.1 = none →
        built.2.images = progress.images ∧
          ((∀ inner ∈ builder.visited element, inner.kind.isBoundary = false) →
            let text := TextRun.styledAll progress.buffer.runs ++ builder.contributions element inherited
            text.IsProper → StyledText.LooksLike (TextRun.styledAll built.2.buffer.runs) text)) := by
  intro built visits
  have hgrows := builder.visits_grow element position path inherited progress waiting
  refine ⟨?_, hgrows.isPrefix_last, hgrows.pairwise, ?_⟩
  · intro hblock
    have hbuffer : built.2.buffer = .empty := builder.buffer_build_of_isBoundary hblock position inherited progress
    rw [hbuffer]
    rfl
  · intro hnone
    have hsilent := builder.build_silent inherited element position [] progress hnone
    refine ⟨hsilent.images_eq, ?_⟩
    intro hblocks text hproper
    have hglyphs : (TextRun.styledAll built.2.buffer.runs).glyphs = text.glyphs := by
      rw [TextRun.glyphs_styledAll, StyledText.glyphs_append, TextRun.glyphs_styledAll]
      exact hsilent.glyphs_eq hblocks
    exact StyledText.looksLike_iff.2 ⟨StyledText.isProper_of_glyphs_eq hglyphs hproper, hproper, hglyphs⟩

def looseList : Element where
  kind := .bulletedList
  range := ⟨0, 3⟩
  children := [
    { kind := .plainRun, range := ⟨0, 1⟩ },
    { kind := .link, range := ⟨1, 3⟩, href := some "c", children := [
      { kind := .em, range := ⟨1, 2⟩, children := [
        { kind := .plainRun, range := ⟨1, 2⟩ }, { kind := .lineBreak, range := ⟨2, 2⟩ }] },
      { kind := .image, range := ⟨1, 2⟩, href := some "no place", children := [
        { kind := .plainRun, range := ⟨0, 1⟩ }] }] },
    { kind := .numberedList, range := ⟨0, 2⟩, children := [{ kind := .table, range := ⟨0, 1⟩ }] }]

/-- The list adds to what waits, and a quote around it leaves nothing. -/
theorem looseList_frame :
    let builder : Builder := { document := ⟨"ab\n", []⟩, profile := .standard }
    let progress : Progress := ⟨⟨[⟨"x", none⟩]⟩, [⟨0, default, false⟩]⟩
    let quote : Element := { kind := .blockquote, range := ⟨0, 3⟩, children := [looseList] }
    let built := builder.build looseList ⟨none, 0⟩ none progress
    let text := TextRun.styledAll progress.buffer.runs ++ builder.contributions looseList none
    built.1 = none ∧ (∀ inner ∈ builder.visited looseList, inner.kind.isBoundary = false) ∧ text.IsProper ∧
      built.2.images = progress.images ∧ StyledText.LooksLike (TextRun.styledAll built.2.buffer.runs) text ∧
      text.map StyledChar.char = ['x', 'a', 'b', '\n'] ∧
      quote.kind.isBoundary = true ∧ (builder.build quote ⟨none, 0⟩ none progress).2.buffer.isEmpty = true := by
  intro builder progress quote built text
  have hnone : built.1 = none := by decide +kernel
  have hblocks : ∀ inner ∈ builder.visited looseList, inner.kind.isBoundary = false := by decide +kernel
  have hproper : text.IsProper := by
    have hsizes : ∀ c ∈ text, ∀ a ∈ c.attributes, a.font.size.isNaN = false := by decide +kernel
    exact hsizes
  have hchars : text.map StyledChar.char = ['x', 'a', 'b', '\n'] := by decide +kernel
  have hquote : quote.kind.isBoundary = true := rfl
  obtain ⟨-, -, -, hsilent⟩ := builder.build_frame looseList ⟨none, 0⟩ [] none progress []
  obtain ⟨himages, hlooks⟩ := hsilent hnone
  have hempty := (builder.build_frame quote ⟨none, 0⟩ [] none progress []).1 hquote
  exact ⟨hnone, hblocks, hproper, himages, hlooks hblocks hproper, hchars, hquote, hempty⟩

end Builder

end MarkdownLayout
