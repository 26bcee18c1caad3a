import MarkdownLayout.Proofs.Accessories

/-!
# Where everything on a page comes from

A mark is a glyph together with the element that put it there. The trace of an element follows the walk that
builds its node, but keeps lists of marks where the walk keeps nodes and a buffer: what the node shows, and what
still waits behind it. `Document.reading_nodes_eq` says that a rendered document reads as its trace, glyph by
glyph, so the paths in the trace tell where each glyph comes from.
-/

namespace MarkdownLayout

inductive Role where
  | content
  | delimiter
  | accessory
  deriving DecidableEq, Repr, Inhabited

/-- A glyph and its element, given by the child indices that lead to it from the top of the document. -/
structure Mark where
  glyph : Glyph
  role : Role
  path : List Nat
  deriving DecidableEq, Repr, Inhabited

namespace Mark

def stamp (role : Role) (path : List Nat) (glyphs : List Glyph) : List Mark :=
  glyphs.map (⟨·, role, path⟩)

def isBreak (mark : Mark) : Bool :=
  mark.glyph.isBreak

def isContent (mark : Mark) : Bool :=
  mark.role == .content

@[simp]
theorem map_glyph_stamp (role : Role) (path : List Nat) (glyphs : List Glyph) :
    (stamp role path glyphs).map glyph = glyphs := by
  simp [stamp, Function.comp_def]

@[simp]
theorem stamp_eq_nil_iff {role : Role} {path : List Nat} {glyphs : List Glyph} :
    stamp role path glyphs = [] ↔ glyphs = [] := by
  simp [stamp]

theorem eq_of_mem_stamp {mark : Mark} {role : Role} {path : List Nat} {glyphs : List Glyph}
    (h : mark ∈ stamp role path glyphs) : mark.role = role ∧ mark.path = path := by
  obtain ⟨_, _, rfl⟩ := List.mem_map.1 h
  exact ⟨rfl, rfl⟩

theorem map_glyph_withoutFinal (marks : List Mark) :
    (withoutFinal isBreak marks).map glyph = withoutFinal Glyph.isBreak (marks.map glyph) :=
  map_withoutFinal Glyph.isBreak glyph marks

end Mark

structure Trace where
  shown : List Mark := []
  waiting : List Mark := []
  deriving DecidableEq, Repr, Inhabited

namespace Trace

def opened (own waiting : List Mark) : Trace :=
  if own.isEmpty then ⟨[], waiting⟩ else ⟨waiting ++ own, []⟩

def append (trace : Trace) (marks : List Mark) : Trace :=
  { trace with waiting := trace.waiting ++ marks }

/-- Goes on from a child. What still waits is shown before whatever the child shows. -/
def take (trace child : Trace) : Trace :=
  if child.shown.isEmpty then ⟨trace.shown, child.waiting⟩
  else ⟨trace.shown ++ child.waiting ++ child.shown, []⟩

def flush (trace : Trace) : Trace :=
  ⟨trace.shown ++ trace.waiting, []⟩

def close (kind : ElementKind) (trace : Trace) : Trace :=
  if kind.isBoundary then ⟨trace.shown ++ withoutFinal Mark.isBreak trace.waiting, []⟩ else trace

def frame (trace : Trace) (front back : List Mark) : Trace :=
  if trace.shown.isEmpty then trace else { trace with shown := front ++ trace.shown ++ back }

def all (trace : Trace) : List Mark :=
  trace.shown ++ trace.waiting

theorem take_of_silent (trace : Trace) {child : Trace} (h : child.shown = []) :
    trace.take child = ⟨trace.shown, child.waiting⟩ := by
  simp [take, h]

theorem take_of_shown (trace : Trace) {child : Trace} (h : child.shown ≠ []) :
    trace.take child = ⟨trace.shown ++ child.waiting ++ child.shown, []⟩ := by
  simp [take, h]

theorem waiting_take (trace child : Trace) :
    (trace.take child).waiting = if child.shown.isEmpty then child.waiting else [] := by
  unfold take
  split <;> rfl

theorem shown_frame_isEmpty (trace : Trace) (front back : List Mark) :
    (trace.frame front back).shown.isEmpty = trace.shown.isEmpty := by
  unfold frame
  cases h : trace.shown <;> simp [h]

theorem all_opened (own waiting : List Mark) : (opened own waiting).all = waiting ++ own := by
  unfold opened
  split
  · next h => simp [all, List.isEmpty_iff.1 h]
  · simp [all]

theorem all_append (trace : Trace) (marks : List Mark) :
    (trace.append marks).all = trace.all ++ marks := by
  simp [append, all]

/-- Going on from a child keeps every mark. What waits in the child may change places with what it shows. -/
theorem all_take_perm (trace child : Trace) : (trace.take child).all.Perm (trace.shown ++ child.all) := by
  by_cases h : child.shown = []
  · simp [take_of_silent trace h, all, h]
  · simpa [take_of_shown trace h, all] using List.perm_append_comm.append_left trace.shown

theorem all_flush (trace : Trace) : trace.flush.all = trace.all := by
  simp [flush, all]

/-- A block that ends drops one line break at most. -/
theorem exists_all_close_eq (kind : ElementKind) (trace : Trace) :
    ∃ dropped : List Mark, (∀ mark ∈ dropped, mark.isBreak = true) ∧
      dropped.length ≤ (if kind.isBoundary then 1 else 0) ∧
      (trace.close kind).all ++ dropped = trace.all := by
  unfold close
  split
  · rcases withoutFinal_eq Mark.isBreak trace.waiting with hkept | ⟨mark, hbreak, hdropped⟩
    · exact ⟨[], by simp, by simp, by simp [all, hkept]⟩
    · refine ⟨[mark], by simpa using hbreak, Nat.le_refl 1, ?_⟩
      rw [all, all, List.append_nil, List.append_assoc, ← hdropped]
  · exact ⟨[], by simp, by simp, by simp⟩

/-- A frame is put around what is shown, and left out where nothing is. -/
theorem all_frame_perm (trace : Trace) (front back : List Mark) :
    (trace.frame front back).all.Perm
      (trace.all ++ if trace.shown.isEmpty then [] else front ++ back) := by
  unfold frame
  split
  · simp
  · simp only [all, List.append_assoc]
    calc (front ++ (trace.shown ++ (back ++ trace.waiting))).Perm
          (trace.shown ++ (back ++ trace.waiting) ++ front) := List.perm_append_comm
      _ = trace.shown ++ (back ++ (trace.waiting ++ front)) := by simp
      _ |>.Perm (trace.shown ++ (trace.waiting ++ front ++ back)) :=
          List.perm_append_comm.append_left trace.shown
      _ = trace.shown ++ (trace.waiting ++ (front ++ back)) := by simp

end Trace

namespace Builder

def passesOver (builder : Builder) (element : Element) : Bool :=
  match element.kind with
  | .image => (builder.resolveImage? element).isNone
  | kind => kind.isUnsupported

def ownGlyphs (builder : Builder) (element : Element) : List Glyph :=
  match element.kind with
  | .horizontalRule => Node.reading [builder.profile.rule.node]
  | .image => (builder.resolveImage? element).toList.map (.picture · element.alt)
  | _ => []

def leafText (builder : Builder) (leaf : Element) : String :=
  if leaf.range.isEmpty then "\n" else builder.document.text leaf

/-- Line breaks are drawn plainly, other leaves like the text around them. -/
def leafGlyphs (builder : Builder) (leaf : Element) (attributes : Option TextAttributes) : List Glyph :=
  Glyph.ofText (builder.leafText leaf) (if leaf.range.isEmpty then none else attributes)

def front (builder : Builder) (element : Element) (position : Position) (path : List Nat)
    (attributes : Option TextAttributes) : List Mark :=
  Mark.stamp .accessory path (Node.reading (builder.profile.frontOf element)) ++
    if element.kind = .listItem then Mark.stamp .delimiter path (Glyph.ofText (marker position) attributes)
    else []

def back (builder : Builder) (element : Element) (path : List Nat) : List Mark :=
  Mark.stamp .accessory path (Node.reading (builder.profile.backOf element))

mutual

def trace (builder : Builder) : Element → Position → List Nat → Option TextAttributes → List Mark → Trace
  | ⟨kind, range, children, href, alt, level⟩, position, path, inherited, waiting =>
    let element : Element := ⟨kind, range, children, href, alt, level⟩
    if builder.passesOver element then ⟨[], waiting⟩
    else
      let attributes := builder.attributes element inherited
      let start := Trace.opened (Mark.stamp .content path (builder.ownGlyphs element)) waiting
      ((traceChildren builder kind path attributes children 0 start).close kind).frame
        (builder.front element position path attributes) (builder.back element path)

def traceChildren (builder : Builder) (parent : ElementKind) (path : List Nat)
    (attributes : Option TextAttributes) : List Element → Nat → Trace → Trace
  | [], _, trace => trace
  | child :: rest, index, trace =>
    traceChildren builder parent path attributes rest (index + 1)
      (if child.kind.isLeaf then
        trace.append (Mark.stamp .content (path ++ [index]) (builder.leafGlyphs child attributes))
      else
        trace.take (Builder.trace builder child ⟨some parent, index⟩ (path ++ [index]) attributes
          trace.waiting))

end

/-- A trace goes through the children of an element like a walk, and closes and frames what it got from them. -/
theorem trace_eq (builder : Builder) (element : Element) (position : Position) (path : List Nat)
    (inherited : Option TextAttributes) (waiting : List Mark) :
    builder.trace element position path inherited waiting =
      if builder.passesOver element then ⟨[], waiting⟩
      else
        ((builder.traceChildren element.kind path (builder.attributes element inherited) element.children 0
            (Trace.opened (Mark.stamp .content path (builder.ownGlyphs element)) waiting)).close
          element.kind).frame
          (builder.front element position path (builder.attributes element inherited))
          (builder.back element path) := by
  obtain ⟨kind, range, children, href, alt, level⟩ := element
  rw [trace]

def traceElements (builder : Builder) : List Element → Nat → Trace → Trace
  | [], _, trace => trace.flush
  | element :: rest, index, trace =>
    traceElements builder rest (index + 1)
      (if element.kind = .html then
        trace.append (Mark.stamp .content [index] (Glyph.ofText (builder.document.text element) none))
      else
        trace.take (builder.trace element ⟨none, index⟩ [index] none trace.waiting))

end Builder

namespace Document

def trace (document : Document) (profile : Profile) (base : Option Url) : List Mark :=
  (Builder.traceElements { document, profile, base } document.elements 0 {}).shown

end Document

/-! ## Marks stay with their elements -/

namespace Builder

theorem path_of_mem_front {builder : Builder} {element : Element} {position : Position}
    {path : List Nat} {attributes : Option TextAttributes} {mark : Mark}
    (h : mark ∈ builder.front element position path attributes) :
    mark.path = path ∧ mark.isContent = false := by
  rcases List.mem_append.1 h with haccessory | hdelimiter
  · simp [Mark.isContent, Mark.eq_of_mem_stamp haccessory]
  · split at hdelimiter
    · simp [Mark.isContent, Mark.eq_of_mem_stamp hdelimiter]
    · cases hdelimiter

theorem path_of_mem_back {builder : Builder} {element : Element} {path : List Nat} {mark : Mark}
    (h : mark ∈ builder.back element path) : mark.path = path ∧ mark.isContent = false := by
  simp [Mark.isContent, Mark.eq_of_mem_stamp h]

mutual

/-- What an element shows or leaves waiting is either its own, or was waiting before. -/
theorem mem_trace (builder : Builder) :
    ∀ (element : Element) (position : Position) (path : List Nat) (inherited : Option TextAttributes)
      (waiting : List Mark), ∀ mark ∈ (builder.trace element position path inherited waiting).all,
      mark ∈ waiting ∨ path <+: mark.path
  | ⟨kind, range, children, href, alt, level⟩, position, path, inherited, waiting, mark, hmark => by
    rw [trace] at hmark
    split at hmark
    · exact Or.inl (by simpa [Trace.all] using hmark)
    · rcases List.mem_append.1 ((Trace.all_frame_perm ..).mem_iff.1 hmark) with hinner | hframe
      · obtain ⟨dropped, -, -, hclose⟩ := Trace.exists_all_close_eq kind (traceChildren builder kind path
          (builder.attributes ⟨kind, range, children, href, alt, level⟩ inherited) children 0
          (Trace.opened (Mark.stamp .content path
            (builder.ownGlyphs ⟨kind, range, children, href, alt, level⟩)) waiting))
        rcases mem_traceChildren builder kind path _ children 0 _ mark
          (hclose ▸ List.mem_append_left dropped hinner) with hopened | hbelow
        · rw [Trace.all_opened] at hopened
          rcases List.mem_append.1 hopened with hbefore | hown
          · exact Or.inl hbefore
          · exact Or.inr (by simp [(Mark.eq_of_mem_stamp hown).2])
        · exact Or.inr hbelow
      · split at hframe
        · cases hframe
        · rcases List.mem_append.1 hframe with hfront | hback
          · exact Or.inr (by simp [(path_of_mem_front hfront).1])
          · exact Or.inr (by simp [(path_of_mem_back hback).1])

theorem mem_traceChildren (builder : Builder) (parent : ElementKind) (path : List Nat)
    (attributes : Option TextAttributes) :
    ∀ (children : List Element) (index : Nat) (trace : Trace),
      ∀ mark ∈ (builder.traceChildren parent path attributes children index trace).all,
      mark ∈ trace.all ∨ path <+: mark.path
  | [], _, _, _, hmark => by
    rw [traceChildren] at hmark
    exact Or.inl hmark
  | child :: rest, index, trace, mark, hmark => by
    rw [traceChildren] at hmark
    rcases mem_traceChildren builder parent path attributes rest (index + 1) _ mark hmark with
      hstep | hlater
    · split at hstep
      · rw [Trace.all_append] at hstep
        rcases List.mem_append.1 hstep with hbefore | hleaf
        · exact Or.inl hbefore
        · exact Or.inr (by rw [(Mark.eq_of_mem_stamp hleaf).2]; exact List.prefix_append path [index])
      · rcases List.mem_append.1 ((Trace.all_take_perm ..).mem_iff.1 hstep) with hshown | hchild
        · exact Or.inl (List.mem_append_left _ hshown)
        · rcases mem_trace builder child _ _ _ _ mark hchild with hwaiting | hinside
          · exact Or.inl (List.mem_append_right _ hwaiting)
          · exact Or.inr ((List.prefix_append path [index]).trans hinside)
    · exact Or.inr hlater

end

end Builder

/-! ## The trace follows the walk

The relation below is kept by every step of the walk: opening an element, adding a leaf, taking a child's node,
closing a block, and wrapping the nodes of an element. -/

/-- Nodes and waiting text of a walk, and the trace that accounts for them. -/
structure Tracks (nodes : List Node) (progress : Progress) (trace : Trace) : Prop where
  reading_eq : Node.reading nodes = trace.shown.map Mark.glyph
  glyphs_eq : progress.buffer.glyphs = trace.waiting.map Mark.glyph
  noEmptyRun : progress.buffer.NoEmptyRun
  nil_iff : nodes = [] ↔ trace.shown = []

namespace Tracks

variable {builder : Builder} {nodes : List Node} {progress : Progress} {trace : Trace}

theorem start : Tracks [] {} {} :=
  ⟨rfl, rfl, TextBuffer.noEmptyRun_empty, by simp⟩

theorem isEmpty_iff (h : Tracks nodes progress trace) :
    progress.buffer.isEmpty = true ↔ trace.waiting = [] := by
  rw [← TextBuffer.glyphs_eq_nil_iff h.noEmptyRun, h.glyphs_eq, List.map_eq_nil_iff]

theorem pending (h : Tracks nodes progress trace) : Tracks [] progress ⟨[], trace.waiting⟩ :=
  ⟨rfl, h.glyphs_eq, h.noEmptyRun, by simp⟩

/-- Text that is added to the waiting text is added to the waiting marks. -/
theorem append (h : Tracks nodes progress trace) {text : String} {attributes : Option TextAttributes}
    {marks : List Mark} (hmarks : marks.map Mark.glyph = Glyph.ofText text attributes) :
    Tracks nodes { progress with buffer := progress.buffer.append text attributes }
      (trace.append marks) where
  reading_eq := h.reading_eq
  glyphs_eq := by simp [Trace.append, h.glyphs_eq, hmarks]
  noEmptyRun := h.noEmptyRun.append text attributes
  nil_iff := h.nil_iff

theorem flushInto (h : Tracks nodes progress trace) :
    Tracks (progress.flushInto nodes).1 (progress.flushInto nodes).2 trace.flush where
  reading_eq := by
    simp [Progress.flushInto, TextBuffer.flushInto, Trace.flush, h.reading_eq, h.glyphs_eq]
  glyphs_eq := rfl
  noEmptyRun := TextBuffer.noEmptyRun_empty
  nil_iff := by
    simp [Progress.flushInto, TextBuffer.flushInto, Trace.flush, h.nil_iff,
      TextBuffer.flush_eq_none_iff, h.isEmpty_iff]

/-- The waiting text is shown ahead of a node, and so are the waiting marks. -/
theorem push (h : Tracks nodes progress trace) {node : Node} {marks : List Mark}
    (hnode : Node.reading [node] = marks.map Mark.glyph) (hmarks : marks ≠ []) :
    Tracks (progress.push nodes node).1 (progress.push nodes node).2
      ⟨trace.shown ++ trace.waiting ++ marks, []⟩ where
  reading_eq := by
    have hflush := h.flushInto.reading_eq
    simp only [Trace.flush] at hflush
    simp [Progress.push, hflush, hnode]
  glyphs_eq := rfl
  noEmptyRun := TextBuffer.noEmptyRun_empty
  nil_iff := by simp [Progress.push, hmarks]

theorem appendLeaf (h : Tracks nodes progress trace) (leaf : Element)
    (attributes : Option TextAttributes) (path : List Nat) :
    Tracks nodes (builder.appendLeaf leaf attributes progress)
      (trace.append (Mark.stamp .content path (builder.leafGlyphs leaf attributes))) := by
  unfold Builder.appendLeaf Builder.leafGlyphs Builder.leafText
  split
  · exact h.append (Mark.map_glyph_stamp ..)
  · exact h.append (Mark.map_glyph_stamp ..)

/-- A child that makes a node pushes it, and one that makes none leaves its text to wait. -/
theorem take (h : Tracks nodes progress trace) {node : Option Node} {after : Progress}
    {child : Trace} (hchild : Tracks node.toList after child) :
    Tracks (node.elim (nodes, after) (after.push nodes)).1
      (node.elim (nodes, after) (after.push nodes)).2 (trace.take child) := by
  have hshown := hchild.nil_iff
  cases node with
  | none =>
    have hnil : child.shown = [] := hshown.1 rfl
    rw [Trace.take_of_silent trace hnil]
    exact ⟨h.reading_eq, hchild.glyphs_eq, hchild.noEmptyRun, h.nil_iff⟩
  | some node =>
    have hne : child.shown ≠ [] := fun heq => by simp [heq] at hshown
    rw [Trace.take_of_shown trace hne]
    have hwaiting : Tracks nodes after ⟨trace.shown, child.waiting⟩ :=
      ⟨h.reading_eq, hchild.glyphs_eq, hchild.noEmptyRun, h.nil_iff⟩
    exact hwaiting.push hchild.reading_eq hne

/-- At the end of a block the buffer and the trace lose the same line break. -/
theorem close (h : Tracks nodes progress trace) (kind : ElementKind) :
    Tracks (Builder.flushBoundary kind nodes progress).1
      (Builder.flushBoundary kind nodes progress).2 (trace.close kind) := by
  unfold Builder.flushBoundary Trace.close
  split
  · have htrimmed : Tracks nodes { progress with buffer := progress.buffer.trimNewline.1 }
        ⟨trace.shown, withoutFinal Mark.isBreak trace.waiting⟩ := by
      refine ⟨h.reading_eq, ?_, h.noEmptyRun.trimNewline, h.nil_iff⟩
      rw [TextBuffer.glyphs_trimNewline h.noEmptyRun, h.glyphs_eq, Mark.map_glyph_withoutFinal]
    exact htrimmed.flushInto
  · exact h

end Tracks

namespace Builder

variable {builder : Builder}

theorem opening_eq_none_iff {element : Element} {progress : Progress} :
    builder.opening element progress = none ↔ builder.passesOver element = true := by
  unfold opening passesOver
  cases element.kind <;> simp [ElementKind.isUnsupported]

theorem not_passesOver_of_opening {element : Element} {progress : Progress} {opened : List Node × Progress}
    (h : builder.opening element progress = some opened) : ¬builder.passesOver element = true := by
  intro hskip
  rw [opening_eq_none_iff.2 hskip] at h
  cases h

theorem opening_tracks {element : Element} {progress after : Progress} {nodes : List Node}
    {waiting : List Mark} (path : List Nat) (h : Tracks [] progress ⟨[], waiting⟩)
    (hopening : builder.opening element progress = some (nodes, after)) :
    Tracks nodes after (Trace.opened (Mark.stamp .content path (builder.ownGlyphs element)) waiting) := by
  unfold opening at hopening
  split at hopening
  · next hkind =>
    cases hopening
    have hown : builder.ownGlyphs element = Node.reading [builder.profile.rule.node] := by
      simp [ownGlyphs, hkind]
    have hpush := h.push (Mark.map_glyph_stamp .content path
      (Node.reading [builder.profile.rule.node])).symm (by simp [RuleStyle.node, Node.reading_divider])
    rw [hown, Trace.opened, if_neg (by simp [RuleStyle.node, Node.reading_divider])]
    exact hpush
  · next hkind =>
    obtain ⟨url, hurl, hpushed⟩ := Option.map_eq_some_iff.1 hopening
    cases hpushed
    have hown : builder.ownGlyphs element = [.picture url element.alt] := by
      simp [ownGlyphs, hkind, hurl]
    have hread : Node.reading [.image ⟨progress.images.length, url, element.alt⟩] =
        (Mark.stamp .content path [.picture url element.alt]).map Mark.glyph := by simp
    have hpush := h.push hread (by simp)
    rw [hown, Trace.opened, if_neg (by simp)]
    exact ⟨hpush.reading_eq, hpush.glyphs_eq, hpush.noEmptyRun, hpush.nil_iff⟩
  · next hrule himage =>
    split at hopening
    · cases hopening
    · cases hopening
      have hown : builder.ownGlyphs element = [] := by
        unfold ownGlyphs
        cases hkind : element.kind <;> simp_all
      rw [hown, Trace.opened, if_pos (by simp)]
      exact h

theorem closing_tracks {nodes : List Node} {progress : Progress} {trace : Trace}
    (h : Tracks nodes progress trace) (element : Element) (position : Position) (path : List Nat)
    (attributes : Option TextAttributes) :
    Tracks (builder.closing element position attributes nodes).toList progress
      (trace.frame (builder.front element position path attributes) (builder.back element path)) := by
  unfold Trace.frame
  by_cases hnil : nodes = []
  · have hshown := h.nil_iff.1 hnil
    rw [if_pos (by simp [hshown]), closing_eq_none_iff.2 hnil]
    exact ⟨by simp [hshown], h.glyphs_eq, h.noEmptyRun, by simp [hshown]⟩
  · have hshown : trace.shown ≠ [] := fun heq => hnil (h.nil_iff.2 heq)
    rw [if_neg (by simpa using hshown)]
    refine ⟨?_, h.glyphs_eq, h.noEmptyRun, ?_⟩
    · have hdelimiter : (if element.kind = .listItem then
          Node.reading [.ofText (marker position) attributes] else []) =
            (if element.kind = .listItem then
              Mark.stamp .delimiter path (Glyph.ofText (marker position) attributes) else []).map
                Mark.glyph := by
        split <;> simp
      have hclosing : Node.reading (builder.closing element position attributes nodes).toList =
          Node.reading (builder.profile.frontOf element) ++
              (if element.kind = .listItem then Node.reading [.ofText (marker position) attributes] else []) ++
            Node.reading nodes ++ Node.reading (builder.profile.backOf element) :=
        gather_closing Node.glyphs_ignoresWrappers builder element position attributes hnil
      rw [hclosing, hdelimiter, h.reading_eq, front, back]
      simp only [List.map_append, Mark.map_glyph_stamp]
    · simp [closing_eq_none_iff, hnil, hshown]

/-- One child of a walk: a leaf adds its text, and any other child is built and its node, if there is one, pushed. -/
theorem buildChildren_cons (parent : ElementKind) (attributes : Option TextAttributes) (child : Element)
    (rest : List Element) (index : Nat) (nodes : List Node) (progress : Progress) :
    builder.buildChildren parent attributes (child :: rest) index nodes progress =
      if child.kind.isLeaf then
        builder.buildChildren parent attributes rest (index + 1) nodes
          (builder.appendLeaf child attributes progress)
      else
        let built := builder.build child ⟨some parent, index⟩ attributes progress
        let next := built.1.elim (nodes, built.2) (built.2.push nodes)
        builder.buildChildren parent attributes rest (index + 1) next.1 next.2 := by
  rw [buildChildren]
  split
  · rfl
  · rcases builder.build child ⟨some parent, index⟩ attributes progress with ⟨_ | node, after⟩ <;> rfl

theorem renderElements_cons (element : Element) (rest : List Element) (index : Nat) (nodes : List Node)
    (progress : Progress) :
    builder.renderElements (element :: rest) index nodes progress =
      if element.kind = .html then
        builder.renderElements rest (index + 1) nodes
          { progress with buffer := progress.buffer.append (builder.document.text element) none }
      else
        let built := builder.build element ⟨none, index⟩ none progress
        let next := built.1.elim (nodes, built.2) (built.2.push nodes)
        builder.renderElements rest (index + 1) next.1 next.2 := by
  rw [renderElements]
  split
  · rfl
  · rcases builder.build element ⟨none, index⟩ none progress with ⟨_ | node, after⟩ <;> rfl

mutual

/-- A walk keeps the trace: given marks for the text that waits, the trace of the element tells what its node shows
and what waits after it. -/
theorem build_tracks (builder : Builder) :
    ∀ (element : Element) (position : Position) (path : List Nat) (inherited : Option TextAttributes)
      (progress : Progress) (waiting : List Mark), Tracks [] progress ⟨[], waiting⟩ →
      Tracks (builder.build element position inherited progress).1.toList
        (builder.build element position inherited progress).2
        (builder.trace element position path inherited waiting)
  | ⟨kind, range, children, href, alt, level⟩, position, path, inherited, progress, waiting, h => by
    rw [build, trace]
    cases hopening : builder.opening ⟨kind, range, children, href, alt, level⟩ progress with
    | none =>
      rw [if_pos (opening_eq_none_iff.1 hopening)]
      exact h
    | some opened =>
      obtain ⟨nodes, after⟩ := opened
      rw [if_neg (not_passesOver_of_opening hopening)]
      have hchildren := buildChildren_tracks builder kind path
        (builder.attributes ⟨kind, range, children, href, alt, level⟩ inherited) children 0 nodes after _
        (opening_tracks path h hopening)
      exact closing_tracks (hchildren.close kind) _ position path _

theorem buildChildren_tracks (builder : Builder) (parent : ElementKind) (path : List Nat)
    (attributes : Option TextAttributes) :
    ∀ (children : List Element) (index : Nat) (nodes : List Node) (progress : Progress) (trace : Trace),
      Tracks nodes progress trace →
      Tracks (builder.buildChildren parent attributes children index nodes progress).1
        (builder.buildChildren parent attributes children index nodes progress).2
        (builder.traceChildren parent path attributes children index trace)
  | [], _, _, _, _, h => by
    rw [buildChildren, traceChildren]
    exact h
  | child :: rest, index, nodes, progress, trace, h => by
    rw [buildChildren_cons, traceChildren]
    split
    · exact buildChildren_tracks builder parent path attributes rest (index + 1) _ _ _
        (h.appendLeaf child attributes (path ++ [index]))
    · have hchild := build_tracks builder child ⟨some parent, index⟩ (path ++ [index]) attributes
        progress trace.waiting h.pending
      exact buildChildren_tracks builder parent path attributes rest (index + 1) _ _ _ (h.take hchild)

end

/-- At the top level the trace is kept from one element to the next. -/
theorem renderElements_tracks (builder : Builder) (elements : List Element) (index : Nat)
    (nodes : List Node) (progress : Progress) (trace : Trace) (h : Tracks nodes progress trace) :
    Tracks (builder.renderElements elements index nodes progress).1
      (builder.renderElements elements index nodes progress).2
      (builder.traceElements elements index trace) := by
  induction elements generalizing index nodes progress trace with
  | nil =>
    rw [renderElements, traceElements]
    exact h.flushInto
  | cons element rest ih =>
    rw [renderElements_cons, traceElements]
    split
    · exact ih (index + 1) _ _ _ (h.append (Mark.map_glyph_stamp ..))
    · have hbuilt := build_tracks builder element ⟨none, index⟩ [index] none progress trace.waiting h.pending
      exact ih (index + 1) _ _ _ (h.take hbuilt)

end Builder

namespace Document

theorem reading_nodes_eq (document : Document) (profile : Profile) (base : Option Url) :
    Node.reading (document.render profile base).nodes =
      (document.trace profile base).map Mark.glyph :=
  (Builder.renderElements_tracks _ document.elements 0 [] {} {} Tracks.start).reading_eq

end Document

end MarkdownLayout
